import ContractTemplates.Proofs.Variable.FormReport
import ContractTemplates.Template.Document

namespace ContractTemplates

/-!
# Strict and lenient forms

Whether required fields are enforced makes a difference for one kind of field only: a required
one that lacks a value. It is a problem of the strict form and has no problem in the lenient one;
all other fields come to the same in both.

`Form.resolve_unenforced` says what this means for the whole: the lenient report is the strict one
without the entries about fields that lack a value, and what is accepted strictly gives the same
values, and so the same document, without enforcement.
-/

/-- Whether a problem is that a required field has no value. -/
def FieldProblem.isMissing : FieldProblem → Bool
  | missing _ => true
  | _ => false

namespace Form

/-- The problems in a result. -/
def report : Except (List FieldProblem) Values → List FieldProblem
  | .error problems => problems
  | .ok _ => []

/-- Whether a definition requires a value where a form has none. -/
def lacks (form : Form) (definition : Definition) : Bool :=
  definition.required && (form.effective definition).isMissing

variable
  {enforceRequired : Bool}
  {definitions : List Definition}
  {definition : Definition}
  {form : Form}
  {values : Values}

theorem report_resolve :
    report (form.resolve enforceRequired definitions) =
      form.problems enforceRequired definitions := by
  by_cases spotless : form.problems enforceRequired definitions = []
  · obtain ⟨values, resolved⟩ := problems_eq_nil_iff.mp spotless
    rw [resolved, spotless]
    rfl
  · rw [resolve_eq_error_iff.mpr ⟨rfl, spotless⟩]
    rfl

theorem declared_true_of_lacks
    (lacking : form.lacks definition = true) :
    form.declared true definition = .problem (.missing definition.label) := by
  rw [lacks, Bool.and_eq_true] at lacking
  unfold declared
  dsimp only
  rw [if_pos lacking.2, lacking.1]
  rfl

theorem problem?_declared_false_of_lacks
    (lacking : form.lacks definition = true) :
    (form.declared false definition).problem? = none := by
  rw [lacks, Bool.and_eq_true, Datum.isMissing_iff] at lacking
  rcases lacking.2 with null | blank
  · rw [declared_of_null null]
    rfl
  · rw [declared_of_blank blank]
    rfl

/-- A field that lacks nothing comes to the same in a strict and in a lenient form. -/
theorem declared_false_of_not_lacks
    (provided : form.lacks definition = false) :
    form.declared false definition = form.declared true definition := by
  unfold lacks at provided
  unfold declared
  dsimp only
  split
  · next missing =>
      rw [missing, Bool.and_true] at provided
      rw [provided]
      rfl
  · rfl

/-- The problem of a field that lacks nothing is of another kind. -/
theorem isMissing_of_not_lacks
    {problem : FieldProblem}
    (provided : form.lacks definition = false)
    (found : (form.declared true definition).problem? = some problem) :
    problem.isMissing = false := by
  unfold lacks at provided
  unfold declared at found
  dsimp only at found
  split at found
  · next missing =>
      rw [missing, Bool.and_true] at provided
      rw [provided, Bool.and_false, if_neg Bool.false_ne_true] at found
      split at found <;>
        cases found
  · split at found
    · cases found
    · cases found
      rfl

theorem problem?_declared_false :
    (form.declared false definition).problem? =
      (form.declared true definition).problem?.filter fun problem =>
        !problem.isMissing := by
  cases lacking : form.lacks definition with
  | true =>
      rw [problem?_declared_false_of_lacks lacking, declared_true_of_lacks lacking]
      rfl
  | false =>
      rw [declared_false_of_not_lacks lacking]
      cases found : (form.declared true definition).problem? with
      | none =>
          rfl
      | some problem =>
          rw [Option.filter_some, isMissing_of_not_lacks lacking found]
          rfl

theorem missing_declared_true :
    (form.declared true definition).problem?.filter FieldProblem.isMissing =
      if form.lacks definition then some (.missing definition.label) else none := by
  cases lacking : form.lacks definition with
  | true =>
      rw [declared_true_of_lacks lacking]
      rfl
  | false =>
      rw [if_neg Bool.false_ne_true, Option.filter_eq_none_iff]
      intro problem found
      rw [isMissing_of_not_lacks lacking found]
      exact Bool.false_ne_true

/-- No name without a definition is required. -/
theorem isMissing_undeclared
    {problem : FieldProblem}
    (found : problem ∈ form.undeclaredProblems definitions) :
    problem.isMissing = false := by
  obtain ⟨⟨name, datum⟩, -, given⟩ := List.mem_filterMap.mp found
  dsimp only at given
  unfold undeclared at given
  split at given
  · split at given
    · cases given
    · split at given <;>
        cases given
      rfl
  · cases given

/-- The problems without enforcement are the others, in the same order. -/
theorem problems_false :
    form.problems false definitions =
      (form.problems true definitions).filter fun problem => !problem.isMissing := by
  rw [problems_eq, problems_eq, List.filter_append, List.filter_filterMap]
  congr 1
  · exact List.filterMap_congr fun definition _ => problem?_declared_false
  · symm
    rw [List.filter_eq_self]
    intro problem found
    rw [isMissing_undeclared found]
    rfl

/-- The problems that only enforcement finds are those of the fields that lack a value. -/
theorem missing_problems :
    (form.problems true definitions).filter FieldProblem.isMissing =
      (definitions.filter form.lacks).map fun definition =>
        .missing definition.label := by
  rw [problems_eq, List.filter_append, List.filter_filterMap]
  have noneUndeclared :
      (form.undeclaredProblems definitions).filter FieldProblem.isMissing = [] := by
    rw [List.filter_eq_nil_iff]
    intro problem found
    rw [isMissing_undeclared found]
    exact Bool.false_ne_true
  rw [noneUndeclared, List.append_nil, ← List.filterMap_eq_map, List.filterMap_filter]
  exact List.filterMap_congr fun definition _ => missing_declared_true

/-- A form that is resolved with enforcement lacks nothing. -/
theorem lacks_eq_false_of_resolve
    (resolved : form.resolve true definitions = .ok values)
    (declared : definition ∈ definitions) :
    form.lacks definition = false := by
  have accepted := problem?_declared_of_resolve resolved declared
  by_contra lacking
  rw [declared_true_of_lacks (Bool.not_eq_false _ ▸ lacking)] at accepted
  cases accepted

/-- What is accepted with enforcement has the same values without it. -/
theorem resolve_false_of_resolve_true
    (resolved : form.resolve true definitions = .ok values) :
    form.resolve false definitions = .ok values := by
  rw [← resolved]
  apply resolve_congr
  unfold outcomes
  dsimp only
  congr 1
  refine List.map_congr_left fun definition declared => ?_
  rw [declared_false_of_not_lacks (lacks_eq_false_of_resolve resolved declared)]

/-- What is ready to be compiled with enforcement is ready as the same draft without it. -/
theorem prepare_false_of_prepare_true
    {policy : CompilePolicy}
    {store : Store}
    {id : Text}
    {draft : DocumentDraft}
    (prepared :
      DocumentDraft.prepare { policy with enforceRequired := true } store id form =
        .ok draft) :
    DocumentDraft.prepare { policy with enforceRequired := false } store id form =
      .ok draft := by
  have samePermission :
      DocumentDraft.permitted? { policy with enforceRequired := false } store id =
        DocumentDraft.permitted? { policy with enforceRequired := true } store id :=
    rfl
  unfold DocumentDraft.prepare at prepared ⊢
  rw [samePermission]
  split at prepared
  · cases prepared
  · next row permitted =>
      split at prepared
      · cases prepared
      · next definitions read =>
          split at prepared
          · cases prepared
          · next values resolved =>
              have lenient := resolve_false_of_resolve_true resolved
              simp only [lenient]
              exact prepared

/-- A form is accepted without enforcement exactly if it has no other problem with it. -/
theorem exists_resolve_false_iff :
    (∃ values, form.resolve false definitions = .ok values) ↔
      ∀ problem ∈ form.problems true definitions, problem.isMissing = true := by
  rw [← problems_eq_nil_iff, problems_false, List.filter_eq_nil_iff]
  simp

/-- How the lenient result of a form goes with the strict one. -/
structure IsRelaxed (definitions : List Definition) (form : Form) : Prop where
  remaining :
    report (form.resolve false definitions) =
      (report (form.resolve true definitions)).filter fun problem =>
        !problem.isMissing
  dropped :
    (report (form.resolve true definitions)).filter FieldProblem.isMissing =
      (definitions.filter form.lacks).map fun definition =>
        .missing definition.label
  relieved :
    (∃ values, form.resolve false definitions = .ok values) ↔
      ∀ problem ∈ report (form.resolve true definitions), problem.isMissing = true
  accepted
    {values : Values}
    (resolved : form.resolve true definitions = .ok values) :
    form.resolve false definitions = .ok values

/--
Without enforcement the report lacks exactly the entries about required fields that have no
value, and the others stay in their order. What is accepted with enforcement has the same values
without it, and every template the same draft.
-/
theorem resolve_unenforced
    (definitions : List Definition)
    (form : Form) :
    form.IsRelaxed definitions ∧
      ∀ (policy : CompilePolicy) (store : Store) (id : Text) (draft : DocumentDraft),
        DocumentDraft.prepare { policy with enforceRequired := true } store id form =
            .ok draft →
          DocumentDraft.prepare { policy with enforceRequired := false } store id form =
            .ok draft := by
  refine ⟨?_, fun policy store id draft => prepare_false_of_prepare_true⟩
  constructor
  case remaining =>
    rw [report_resolve, report_resolve]
    exact problems_false
  case dropped =>
    rw [report_resolve]
    exact missing_problems
  case relieved =>
    rw [report_resolve]
    exact exists_resolve_false_iff
  case accepted =>
    exact resolve_false_of_resolve_true

/-- A stored letter whose schema requires a greeting. -/
def letterStore : Store where
  templates := [{
    id := "letter".toList
    title := "Letter".toList
    description := none
    price := 0
    source := "\x7b\x7bgreeting\x7d\x7d!".toList
    schema := Schema.write
      [⟨"greeting".toList, .text, "Greeting".toList, true, none, none⟩]
    version := 1
    isPublished := true }]
  versions := []

/-- The payment form is relieved of one problem, and a letter stays as it is. -/
theorem resolve_unenforced_ofPayment :
    report (paymentForm.resolve true paymentDefinitions) = [
        .missing "Party".toList,
        .rejected "Amount".toList .badNumeral,
        .rejectedUndeclared "extra".toList (.unsupported "list".toList)] ∧
      report (paymentForm.resolve false paymentDefinitions) = [
        .rejected "Amount".toList .badNumeral,
        .rejectedUndeclared "extra".toList (.unsupported "list".toList)] ∧
      paymentForm.IsRelaxed paymentDefinitions ∧
      ∃ draft,
        draft.source = Text.raw "Hello!".toList ∧
          DocumentDraft.prepare ⟨false, true⟩ letterStore "letter".toList
              [("greeting".toList, .string "Hello".toList)] =
            .ok draft := by
  refine ⟨rfl, rfl, (resolve_unenforced paymentDefinitions paymentForm).1,
    ⟨"Letter".toList, "Hello!".toList⟩, rfl, ?_⟩
  have strict :
      DocumentDraft.prepare ⟨true, true⟩ letterStore "letter".toList
          [("greeting".toList, .string "Hello".toList)] =
        .ok ⟨"Letter".toList, "Hello!".toList⟩ := by
    decide +kernel
  exact (resolve_unenforced [] _).2 ⟨true, true⟩ letterStore _ _ strict

end Form

end ContractTemplates
