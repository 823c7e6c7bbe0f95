import ContractTemplates.Proofs.Variable.FormReport

namespace ContractTemplates

/-!
# Defaults

`Form.completed` sends the default of each definition under its name where nothing is sent there.
What a definition reads in the completed form is what counts for it in the form itself, with the
default or without: `Form.raw_completed`. Names without a definition are left alone.

`Form.resolve_completed` says that a form with defaults comes to the same as the completed form
without them, and that a default has no say in a field for which something is sent.
-/

/-- A definition with another default. -/
def Definition.withDefault
    (defaultValue : Option DefaultValue)
    (definition : Definition) :
    Definition :=
  { definition with defaultValue }

namespace Form

/-- Sends the default of a definition if nothing is sent under its name. -/
def complete (form : Form) (definition : Definition) : Form :=
  match form.raw definition.name, definition.defaultValue with
  | .null, some value => Entries.put definition.name value.toDatum form
  | _, _ => form

/-- Sends the default of every definition under whose name nothing is sent. -/
def completed (definitions : List Definition) (form : Form) : Form :=
  definitions.foldl complete form

variable
  {enforceRequired : Bool}
  {definitions : List Definition}
  {definition : Definition}
  {form other : Form}
  {name : RawText}

/-- A definition reads in its completed form what counts for it. -/
theorem raw_complete_self :
    (form.complete definition).raw definition.name = form.effective definition := by
  unfold complete effective
  cases sent : form.raw definition.name with
  | null =>
      cases definition.defaultValue with
      | none =>
          exact sent
      | some value =>
          dsimp only
          rw [raw, Entries.find?_put_self]
          rfl
  | _ =>
      exact sent

theorem raw_complete_other
    (different : name ≠ definition.name) :
    (form.complete definition).raw name = form.raw name := by
  unfold complete
  split
  · rw [raw, raw, Entries.find?_put_other different]
  · rfl

theorem raw_completed_other
    (undeclared : name ∉ definitions.map Definition.name) :
    (form.completed definitions).raw name = form.raw name := by
  unfold completed
  induction definitions generalizing form with
  | nil =>
      rfl
  | cons definition rest inductionHypothesis =>
      rw [List.map_cons, List.mem_cons, not_or] at undeclared
      rw [List.foldl_cons, inductionHypothesis undeclared.2,
        raw_complete_other undeclared.1]

/-- Each definition reads in the completed form what counts for it. -/
theorem raw_completed
    (distinct : (definitions.map Definition.name).Nodup)
    (declared : definition ∈ definitions) :
    (form.completed definitions).raw definition.name = form.effective definition := by
  unfold completed
  induction definitions generalizing form with
  | nil =>
      cases declared
  | cons first rest inductionHypothesis =>
      rw [List.map_cons, List.nodup_cons] at distinct
      rw [List.foldl_cons]
      rcases List.mem_cons.mp declared with rfl | later
      · exact (raw_completed_other distinct.1).trans raw_complete_self
      · have different : definition.name ≠ first.name := by
          intro same
          exact distinct.1 (same ▸ List.mem_map_of_mem later)
        rw [inductionHypothesis distinct.2 later,
          effective_congr (raw_complete_other different)]

/-- What is sent under names without a definition is sent in the completed form as well. -/
theorem filter_completed
    (names : List RawText)
    (declared : ∀ definition ∈ definitions, definition.name ∈ names) :
    (form.completed definitions).filter (fun entry => entry.1 ∉ names) =
      form.filter fun entry => entry.1 ∉ names := by
  unfold completed
  induction definitions generalizing form with
  | nil =>
      rfl
  | cons definition rest inductionHypothesis =>
      obtain ⟨first, later⟩ := List.forall_mem_cons.mp declared
      rw [List.foldl_cons, inductionHypothesis later]
      unfold complete
      split
      · have unconcerned : decide (definition.name ∉ names) = false := by
          simpa using first
        exact Entries.filter_put (fun name => decide (name ∉ names)) unconcerned _ form
      · rfl

theorem effective_withDefault
    (defaultValue : Option DefaultValue) :
    form.effective (definition.withDefault defaultValue) =
      match form.raw definition.name with
      | .null => (defaultValue.map DefaultValue.toDatum).getD .null
      | datum => datum :=
  rfl

/-- In the completed form nothing is left to a default. -/
theorem effective_completed
    (distinct : (definitions.map Definition.name).Nodup)
    (declared : definition ∈ definitions) :
    (form.completed definitions).effective (definition.withDefault none) =
      form.effective definition := by
  rw [effective_withDefault, raw_completed distinct declared]
  split
  · next null =>
      exact null.symm
  · rfl

/-- Where something is sent, the default does not count. -/
theorem effective_of_sent
    {defaultValue : Option DefaultValue}
    (same : form.raw definition.name = .null → defaultValue = definition.defaultValue) :
    form.effective (definition.withDefault defaultValue) =
      form.effective definition := by
  by_cases null : form.raw definition.name = .null
  · rw [effective_withDefault, effective, null, same null]
  · have sent : form.raw (definition.withDefault defaultValue).name ≠ .null :=
      null
    rw [effective_of_raw_ne_null null, effective_of_raw_ne_null sent]
    rfl

theorem declared_withDefault
    {defaultValue : Option DefaultValue}
    (same :
      other.effective (definition.withDefault defaultValue) =
        form.effective definition) :
    other.declared enforceRequired (definition.withDefault defaultValue) =
      form.declared enforceRequired definition := by
  unfold declared
  rw [same]
  rfl

/-- Defaults matter to a form only by what counts for the definitions. -/
theorem resolve_withDefault
    {defaults : Definition → Option DefaultValue}
    (same :
      ∀ definition ∈ definitions,
        other.effective (definition.withDefault (defaults definition)) =
          form.effective definition)
    (others :
      other.filter (fun entry => entry.1 ∉ definitions.map Definition.name) =
        form.filter fun entry => entry.1 ∉ definitions.map Definition.name) :
    other.resolve enforceRequired
        (definitions.map fun definition =>
          definition.withDefault (defaults definition)) =
      form.resolve enforceRequired definitions := by
  apply resolve_congr
  have names :
      (definitions.map fun definition =>
          definition.withDefault (defaults definition)).map Definition.name =
        definitions.map Definition.name := by
    rw [List.map_map]
    rfl
  unfold outcomes
  dsimp only
  rw [names, others, List.map_map]
  congr 1
  refine List.map_congr_left fun definition declared => ?_
  exact congrArg (definition.name, ·) (declared_withDefault (same definition declared))

/--
Leaving a default to the definition is the same as sending it: the completed form comes to the
same without defaults. Where something is sent under a name, be it blank, every default of its
definition comes to the same.
-/
theorem resolve_completed
    (distinct : (definitions.map Definition.name).Nodup) :
    (form.completed definitions).resolve enforceRequired
        (definitions.map (Definition.withDefault none)) =
      form.resolve enforceRequired definitions ∧
      ∀ defaults : Definition → Option DefaultValue,
        (∀ definition ∈ definitions,
          form.raw definition.name = .null →
            defaults definition = definition.defaultValue) →
          form.resolve enforceRequired
              (definitions.map fun definition =>
                definition.withDefault (defaults definition)) =
            form.resolve enforceRequired definitions := by
  constructor
  · exact resolve_withDefault (fun definition => effective_completed distinct)
      (filter_completed _ fun definition => List.mem_map_of_mem)
  · intro defaults same
    exact resolve_withDefault
      (fun definition declared => effective_of_sent (same definition declared)) rfl

/-- A rent, a term and notes, each with a default; that of the rent is no number. -/
def rentalDefinitions : List Definition := [
  ⟨"rent".toList, .number, "Rent".toList, true, some (.boolean true), none⟩,
  ⟨"term".toList, .select, "Term".toList, true, some (.text "1 year".toList),
    some ["1 year".toList, "2 years".toList]⟩,
  ⟨"notes".toList, .text, "Notes".toList, true, some (.text "none".toList), none⟩]

/-- A form that blanks the notes, sends null as the term and leaves the rent out. -/
def rentalForm : Form := [
  ("notes".toList, .string " ".toList),
  ("term".toList, .null),
  ("more".toList, .list [])]

/-- The default of the rent is rejected as if it had been sent; that of the notes does not count. -/
theorem resolve_completed_ofRental :
    rentalForm.completed rentalDefinitions = ([
        ("notes".toList, .string " ".toList),
        ("term".toList, .string "1 year".toList),
        ("more".toList, .list []),
        ("rent".toList, .boolean true)] : Form) ∧
      (rentalForm.completed rentalDefinitions).resolve true
          (rentalDefinitions.map (Definition.withDefault none)) =
        .error [
          .rejected "Rent".toList .notNumber,
          .missing "Notes".toList,
          .rejectedUndeclared "more".toList (.unsupported "list".toList)] ∧
      rentalForm.resolve true
          (rentalDefinitions.map fun definition =>
            definition.withDefault
              (if definition.name = Text.raw "notes".toList then none
                else definition.defaultValue)) =
        rentalForm.resolve true rentalDefinitions := by
  have distinct : (rentalDefinitions.map Definition.name).Nodup := by
    decide
  obtain ⟨alike, unneeded⟩ := @resolve_completed true _ rentalForm distinct
  refine ⟨rfl, alike, unneeded _ fun definition declared unsent => if_neg ?_⟩
  intro notes
  rw [notes] at unsent
  cases unsent

end Form

end ContractTemplates
