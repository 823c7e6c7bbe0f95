import ContractTemplates.Proofs.Variable.FormReport

namespace ContractTemplates.Form

/-!
# The order of fields

A form is a mapping, and the definitions of a template have distinct names. Neither order matters
to what becomes of a field, so that the outcomes of all fields are the same but for their order:
`Form.outcomes_perm`. Problems and values are selected from these outcomes.

`Form.resolve_reordered` says what follows for the result, and for every document that is filled
from it.
-/

variable
  {enforceRequired : Bool}
  {definitions otherDefinitions : List Definition}
  {definition : Definition}
  {form other : Form}

theorem declared_perm
    (reordered : form.Perm other)
    (mapping : (form.map Prod.fst).Nodup) :
    other.declared enforceRequired definition =
      form.declared enforceRequired definition := by
  apply declared_congr
  apply effective_congr
  rw [raw, raw, Entries.find?_perm reordered mapping]

/-- The same becomes of every field, whatever the order of the definitions and of the form. -/
theorem outcomes_perm
    (rearranged : definitions.Perm otherDefinitions)
    (reordered : form.Perm other)
    (mapping : (form.map Prod.fst).Nodup) :
    (form.outcomes enforceRequired definitions).Perm
      (other.outcomes enforceRequired otherDefinitions) := by
  have sameNames (name : RawText) :
      name ∈ definitions.map Definition.name ↔
        name ∈ otherDefinitions.map Definition.name :=
    (rearranged.map Definition.name).mem_iff
  unfold outcomes
  apply List.Perm.append
  · have sameOutcomes :
        (fun definition => (definition.name, form.declared enforceRequired definition)) =
          fun definition =>
            (definition.name, other.declared enforceRequired definition) := by
      funext definition
      rw [declared_perm reordered mapping]
    rw [sameOutcomes]
    exact rearranged.map _
  · simp only [sameNames]
    exact (reordered.filter _).map _

theorem problems_perm
    (rearranged : definitions.Perm otherDefinitions)
    (reordered : form.Perm other)
    (mapping : (form.map Prod.fst).Nodup) :
    (form.problems enforceRequired definitions).Perm
      (other.problems enforceRequired otherDefinitions) :=
  (outcomes_perm rearranged reordered mapping).filterMap _

/-- The values that are recorded are the same, each under the same name. -/
theorem values_perm
    {values otherValues : Values}
    (distinct : (definitions.map Definition.name).Nodup)
    (mapping : (form.map Prod.fst).Nodup)
    (rearranged : definitions.Perm otherDefinitions)
    (reordered : form.Perm other)
    (resolved : form.resolve enforceRequired definitions = .ok values)
    (otherResolved : other.resolve enforceRequired otherDefinitions = .ok otherValues) :
    values.Perm otherValues := by
  have fields : ((form.outcomes enforceRequired definitions).map Prod.fst).Nodup :=
    nodup_outcomes distinct mapping
  have perm :
      (form.outcomes enforceRequired definitions).Perm
        (other.outcomes enforceRequired otherDefinitions) :=
    outcomes_perm rearranged reordered mapping
  have otherFields :
      ((other.outcomes enforceRequired otherDefinitions).map Prod.fst).Nodup :=
    (perm.map Prod.fst).nodup fields
  rw [(resolve_eq_ok_iff.mp resolved).2, (resolve_eq_ok_iff.mp otherResolved).2,
    FieldOutcome.foldl_record_of_nodup fields,
    FieldOutcome.foldl_record_of_nodup otherFields]
  exact perm.filterMap _

/--
Whether two forms come to the same but for order: both are refused for the same problems, or
both are resolved to the same mapping, which fills every source alike.
-/
inductive AgreeButOrder :
    Except (List FieldProblem) Values →
      Except (List FieldProblem) Values → Prop where
  | refused
      {found otherFound : List FieldProblem}
      (problems : found.Perm otherFound)
      (messages :
        (found.map FieldProblem.message).Perm
          (otherFound.map FieldProblem.message)) :
      AgreeButOrder (.error found) (.error otherFound)
  | resolved
      {values otherValues : Values}
      (mapping :
        ∀ name, Entries.find? values name = Entries.find? otherValues name)
      (documents :
        ∀ source,
          substitute source (Entries.find? values) =
            substitute source (Entries.find? otherValues)) :
      AgreeButOrder (.ok values) (.ok otherValues)

/--
Reordering the definitions and the form changes nothing but the order: the same problems are
reported, and where there are none, the same mapping fills every source alike.
-/
theorem resolve_reordered
    (distinct : (definitions.map Definition.name).Nodup)
    (mapping : (form.map Prod.fst).Nodup)
    (rearranged : definitions.Perm otherDefinitions)
    (reordered : form.Perm other) :
    AgreeButOrder (form.resolve enforceRequired definitions)
      (other.resolve enforceRequired otherDefinitions) := by
  have perm :
      (form.problems enforceRequired definitions).Perm
        (other.problems enforceRequired otherDefinitions) :=
    problems_perm rearranged reordered mapping
  by_cases spotless : form.problems enforceRequired definitions = []
  · have otherSpotless : other.problems enforceRequired otherDefinitions = [] := by
      rw [spotless] at perm
      exact perm.symm.eq_nil
    obtain ⟨values, resolved⟩ := problems_eq_nil_iff.mp spotless
    obtain ⟨otherValues, otherResolved⟩ := problems_eq_nil_iff.mp otherSpotless
    have same (name : RawText) :
        Entries.find? values name = Entries.find? otherValues name :=
      Entries.find?_perm
        (values_perm distinct mapping rearranged reordered resolved otherResolved)
        (isFilled_of_resolve distinct mapping resolved).distinct name
    rw [resolved, otherResolved]
    refine .resolved same fun source => ?_
    rw [funext same]
  · have otherNonempty : other.problems enforceRequired otherDefinitions ≠ [] := by
      intro otherSpotless
      rw [otherSpotless] at perm
      exact spotless perm.eq_nil
    rw [resolve_eq_error_iff.mpr ⟨rfl, spotless⟩,
      resolve_eq_error_iff.mpr ⟨rfl, otherNonempty⟩]
    exact .refused perm (perm.map _)

/-- In reverse order the payment form has the same problems, and the tenancy form the same values. -/
theorem resolve_reordered_ofPayment :
    resolve true paymentDefinitions.reverse paymentForm.reverse =
        .error [
          .rejected "Amount".toList .badNumeral,
          .missing "Party".toList,
          .rejectedUndeclared "extra".toList (.unsupported "list".toList)] ∧
      AgreeButOrder (paymentForm.resolve true paymentDefinitions)
        (resolve true paymentDefinitions.reverse paymentForm.reverse) ∧
      resolve true tenancyDefinitions.reverse tenancyForm.reverse =
        .ok [
          ("notes".toList, .text []),
          ("mutual".toList, .boolean true),
          ("party".toList, .text " 2024-03-15 Ltd".toList),
          ("more".toList, .number (.integer 1))] ∧
      AgreeButOrder (tenancyForm.resolve true tenancyDefinitions)
        (resolve true tenancyDefinitions.reverse tenancyForm.reverse) := by
  have paymentNames : (paymentDefinitions.map Definition.name).Nodup := by
    decide
  have paymentMapping : (paymentForm.map Prod.fst).Nodup := by
    decide
  have tenancyNames : (tenancyDefinitions.map Definition.name).Nodup := by
    decide
  have tenancyMapping : (tenancyForm.map Prod.fst).Nodup := by
    decide
  refine ⟨rfl, ?_, rfl, ?_⟩
  · exact resolve_reordered paymentNames paymentMapping
      (List.reverse_perm _).symm (List.reverse_perm _).symm
  · exact resolve_reordered tenancyNames tenancyMapping
      (List.reverse_perm _).symm (List.reverse_perm _).symm

end ContractTemplates.Form
