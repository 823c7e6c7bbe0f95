import ContractTemplates.Proofs.Validation.Checked

namespace ContractTemplates

/-!
# Which field an issue is about

An issue of a record names the field that it was found in as the first step on its way. A
check of a field therefore blames that field and no other, `Validation.not_blames_required`
and `Validation.not_blames_optional`, and a record blames what one of its fields blames.
-/

namespace Checked

variable
  {first : Checked α}
  {second : Checked β}
  {name field : Text}

/-- Whether an issue of a check is about a field. -/
def Blames (check : Checked α) (name : Text) : Prop :=
  ∃ issue ∈ check.issues, issue.path.head? = some (.field name)

theorem issues_both :
    (both first second).issues = first.issues ++ second.issues := by
  cases first <;>
    cases second <;>
      rfl

theorem issues_map
    (f : α → β) :
    issues (first.map f) = first.issues := by
  cases first <;>
    rfl

theorem blames_both_iff :
    (both first second).Blames name ↔ first.Blames name ∨ second.Blames name := by
  simp only [Blames, issues_both, List.mem_append, or_and_right, exists_or]

theorem blames_map_iff
    (f : α → β) :
    Blames (first.map f) name ↔ first.Blames name := by
  simp only [Blames, issues_map]

/-- What is found within a field is about this field. -/
theorem blames_within_iff :
    (within (.field field) first).Blames name ↔ name = field ∧ first.issues ≠ [] := by
  cases first with
  | ok value =>
      simp [Blames, within, issues]
  | error found =>
      cases found with
      | nil =>
          simp [Blames, within, issues]
      | cons issue rest =>
          simp [Blames, within, issues, eq_comm]

end Checked

namespace Validation

variable
  {names : List Text}
  {entries : List (Datum × Datum)}
  {name field : Text}
  {datum : Datum}

/-- A field is found under one of its names. -/
theorem mem_of_present?
    (found : present? names entries = some (field, datum)) :
    field ∈ names := by
  obtain ⟨name, member, held⟩ := List.exists_of_findSome?_eq_some found
  obtain ⟨value, -, same⟩ := Option.map_eq_some_iff.mp held
  cases same
  exact member

theorem not_blames_required
    (named : names ≠ [])
    (other : name ∉ names)
    (check : Datum → Checked α)
    (entries : List (Datum × Datum)) :
    ¬ (required names check entries).Blames name := by
  unfold required
  split
  next field datum found =>
    intro blamed
    obtain ⟨rfl, -⟩ := Checked.blames_within_iff.mp blamed
    exact other (mem_of_present? found)
  next absent =>
    intro blamed
    obtain ⟨rfl, -⟩ := Checked.blames_within_iff.mp blamed
    cases names with
    | nil =>
        exact named rfl
    | cons field rest =>
        exact other List.mem_cons_self

theorem not_blames_optional
    (other : name ∉ names)
    (absent : α)
    (check : Datum → Checked α)
    (entries : List (Datum × Datum)) :
    ¬ (optional names absent check entries).Blames name := by
  unfold optional
  split
  next field datum found =>
    intro blamed
    obtain ⟨rfl, -⟩ := Checked.blames_within_iff.mp blamed
    exact other (mem_of_present? found)
  next missing =>
    rintro ⟨issue, member, -⟩
    cases member

/-- A field that is there is blamed exactly if its check has issues. -/
theorem blames_required_iff
    (held : Datum.entry? field entries = some datum)
    (check : Datum → Checked α) :
    (required [field] check entries).Blames field ↔ (check datum).issues ≠ [] := by
  have found : present? [field] entries = some (field, datum) := by
    simp [present?, held]
  simp [required, found, Checked.blames_within_iff]

end Validation

end ContractTemplates
