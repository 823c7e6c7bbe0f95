import ContractTemplates.Proofs.Text.Raw
import ContractTemplates.Proofs.Variable.Definition
import ContractTemplates.Proofs.Variable.FormReport

namespace ContractTemplates

/-!
# What messages are made of

A message about a field quotes its label or its name, and one about a choice its options.
Nothing that was sent as a value is quoted. Where the definitions and the names of a form
are free of halves of characters, all messages about the form therefore are texts:
`Form.isText_message_of_resolve`.
-/

namespace Value

variable
  {datum : Datum}
  {fault : ValueFault}

/-- Raw data that have no value by their kind are complained about by this kind. -/
theorem isText_message_of_infer
    (rejected : infer datum = .error fault) :
    fault.message.isText = true := by
  unfold infer at rejected
  split at rejected <;>
    cases rejected
  simp [ValueFault.message]

theorem isText_message_of_toNumber
    (rejected : toNumber datum = .error fault) :
    fault.message.isText = true := by
  unfold toNumber at rejected
  split at rejected
  · cases rejected
  · split at rejected <;>
      cases rejected
    rfl
  · cases rejected
    rfl

theorem isText_message_of_toBoolean
    (rejected : toBoolean datum = .error fault) :
    fault.message.isText = true := by
  unfold toBoolean at rejected
  split at rejected
  · cases rejected
  · dsimp only at rejected
    split at rejected
    · cases rejected
    · split at rejected <;>
        cases rejected
      rfl
  · cases rejected
    rfl

theorem isText_message_of_toDate
    (rejected : toDate datum = .error fault) :
    fault.message.isText = true := by
  unfold toDate at rejected
  split at rejected
  · cases rejected
  · cases rejected
  · split at rejected <;>
      cases rejected
    rfl
  · cases rejected
    rfl

theorem eq_notOption_of_toOption
    {options : List RawText}
    (rejected : toOption options datum = .error fault) :
    fault = .notOption options := by
  unfold toOption at rejected
  split at rejected
  · split at rejected <;>
      cases rejected
    rfl
  · cases rejected
    rfl

end Value

/-- A coercion that fails quotes the options of a choice, and no other raw text. -/
theorem Definition.isText_message_of_coerce
    {definition : Definition}
    {datum : Datum}
    {fault : ValueFault}
    (isText : definition.isText = true)
    (rejected : definition.coerce datum = .error fault) :
    fault.message.isText = true := by
  unfold coerce at rejected
  split at rejected
  next number =>
    exact Value.isText_message_of_toNumber rejected
  next boolean =>
    exact Value.isText_message_of_toBoolean rejected
  next date =>
    exact Value.isText_message_of_toDate rejected
  next select =>
    have optionsText : ∀ option ∈ definition.choices, option.isText = true := by
      simp only [Definition.isText, Bool.and_eq_true, List.all_eq_true] at isText
      exact isText.2
    rw [Value.eq_notOption_of_toOption rejected, ValueFault.message,
      RawText.isText_append, RawText.isText_joined (Text.isText_raw _) optionsText]
    rfl
  next text =>
    exact Value.isText_message_of_infer rejected

namespace Form

variable
  {enforceRequired : Bool}
  {definitions : List Definition}
  {definition : Definition}
  {form : Form}

theorem isText_message_declared
    {problem : FieldProblem}
    (isText : definition.isText = true)
    (found : (form.declared enforceRequired definition).problem? = some problem) :
    problem.message.isText = true := by
  have labelText : definition.label.isText = true := by
    simp only [Definition.isText, Bool.and_eq_true] at isText
    exact isText.1.1.2
  unfold declared at found
  dsimp only at found
  split at found
  · split at found
    · cases found
      simp [FieldProblem.message, labelText]
    · split at found <;>
        cases found
  · split at found
    · cases found
    · next fault rejected =>
        cases found
        simp [FieldProblem.message, labelText,
          Definition.isText_message_of_coerce isText rejected]

theorem isText_message_undeclared
    {name : RawText}
    {datum : Datum}
    {problem : FieldProblem}
    (nameText : name.isText = true)
    (found : (undeclared name datum).problem? = some problem) :
    problem.message.isText = true := by
  unfold undeclared at found
  split at found
  · cases found
  · split at found
    · cases found
    · next fault rejected =>
        cases found
        simp [FieldProblem.message, nameText, Value.isText_message_of_infer rejected]

/-- Definitions and names that are texts have messages that are texts. -/
theorem isText_message_of_resolve
    {problems : List FieldProblem}
    (definitionsText : ∀ definition ∈ definitions, definition.isText = true)
    (namesText : ∀ entry ∈ form, entry.1.isText = true)
    (rejected : form.resolve enforceRequired definitions = .error problems) :
    ∀ problem ∈ problems, problem.message.isText = true := by
  obtain ⟨rfl, _⟩ := resolve_eq_error_iff.mp rejected
  intro problem member
  rw [problems_eq, List.mem_append] at member
  rcases member with ofDeclared | ofUndeclared
  · obtain ⟨definition, declared, found⟩ := List.mem_filterMap.mp ofDeclared
    exact isText_message_declared (definitionsText definition declared) found
  · obtain ⟨entry, sent, found⟩ := List.mem_filterMap.mp ofUndeclared
    split at found
    · exact isText_message_undeclared (namesText entry sent) found
    · cases found

end Form

end ContractTemplates
