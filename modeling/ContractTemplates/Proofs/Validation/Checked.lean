import ContractTemplates.Proofs.Entries
import ContractTemplates.Validation.Record
import Mathlib.Data.List.Forall2

namespace ContractTemplates

/-!
# Checks that succeed

What is known when a check has succeeded: each part that it looked at has been
checked with success. And the other way round: a list of data is checked with
success if every item is.
-/

namespace Checked

theorem map_eq_ok
    {check : Checked α}
    {f : α → β}
    {b : β} :
    check.map f = .ok b ↔ ∃ a, check = .ok a ∧ f a = b := by
  cases check with
  | ok a =>
      constructor
      · intro same
        cases same
        exact ⟨a, rfl, rfl⟩
      · rintro ⟨held, same, rfl⟩
        cases same
        rfl
  | error issues =>
      constructor
      · intro impossible
        cases impossible
      · rintro ⟨held, impossible, _⟩
        cases impossible

theorem bind_eq_ok
    {check : Checked α}
    {next : α → Checked β}
    {b : β} :
    check.bind next = .ok b ↔ ∃ a, check = .ok a ∧ next a = .ok b := by
  cases check with
  | ok a =>
      constructor
      · intro success
        exact ⟨a, rfl, success⟩
      · rintro ⟨held, same, success⟩
        cases same
        exact success
  | error issues =>
      constructor
      · intro impossible
        cases impossible
      · rintro ⟨held, impossible, _⟩
        cases impossible

/-- Checks of all items, from any position, succeed exactly if the check of each does. -/
theorem all_zipIdx_eq_ok
    {check : α → Checked β}
    {values : List α}
    {results : List β}
    (position : Nat) :
    all
        ((values.zipIdx position).map fun item =>
          within (.index item.2) (check item.1)) =
        .ok results ↔
      List.Forall₂ (fun value result => check value = .ok result)
        values results := by
  induction values generalizing position results with
  | nil =>
      rw [List.forall₂_nil_left_iff]
      exact ⟨fun same => (Except.ok.inj same).symm, fun same => same ▸ rfl⟩
  | cons value rest inductionHypothesis =>
      rw [List.zipIdx_cons, List.map_cons, List.forall₂_cons_left_iff]
      constructor
      · intro success
        obtain ⟨⟨first, others⟩, pair, rfl⟩ := map_eq_ok.mp success
        obtain ⟨firstOk, othersOk⟩ := both_eq_ok.mp pair
        exact ⟨first, others, within_eq_ok.mp firstOk,
          (inductionHypothesis (position + 1)).mp othersOk, rfl⟩
      · rintro ⟨first, others, firstOk, othersOk, rfl⟩
        exact map_eq_ok.mpr ⟨(first, others),
          both_eq_ok.mpr ⟨within_eq_ok.mpr firstOk,
            (inductionHypothesis (position + 1)).mpr othersOk⟩,
          rfl⟩

/-- A list is checked with success exactly if each item is checked to be its result. -/
theorem items_eq_ok
    {check : α → Checked β}
    {values : List α}
    {results : List β} :
    items check values = .ok results ↔
      List.Forall₂ (fun value result => check value = .ok result)
        values results :=
  all_zipIdx_eq_ok 0

/-- Items that were made from results are checked to be these results. -/
theorem items_map
    {check : α → Checked β}
    {datumOf : β → α}
    {results : List β}
    (each : ∀ result ∈ results, check (datumOf result) = .ok result) :
    items check (results.map datumOf) = .ok results :=
  items_eq_ok.mpr
    (List.forall₂_map_left_iff.mpr (List.forall₂_same.mpr each))

theorem exists_of_items_eq_ok
    {check : α → Checked β}
    {values : List α}
    {results : List β}
    {result : β}
    (success : items check values = .ok results)
    (member : result ∈ results) :
    ∃ value, check value = .ok result := by
  have each := items_eq_ok.mp success
  clear success
  induction each with
  | nil =>
      cases member
  | cons checked _ inductionHypothesis =>
      rcases List.mem_cons.mp member with rfl | later
      · exact ⟨_, checked⟩
      · exact inductionHypothesis later

end Checked

namespace Validation

/-- Every result of checking a list is the result of checking one of its items. -/
theorem exists_of_list_eq_ok
    {check : Datum → Checked β}
    {datum : Datum}
    {results : List β}
    {result : β}
    (success : list check datum = .ok results)
    (member : result ∈ results) :
    ∃ item, check item = .ok result := by
  unfold list at success
  split at success
  · exact Checked.exists_of_items_eq_ok success member
  · exact Checked.exists_of_items_eq_ok success member
  · exact Checked.exists_of_items_eq_ok success member
  · cases success

/-- A field that is checked with success is present with a checked value. -/
theorem exists_of_required_eq_ok
    {names : List Text}
    {check : Datum → Checked α}
    {entries : List (Datum × Datum)}
    {value : α}
    (success : required names check entries = .ok value) :
    ∃ datum, check datum = .ok value := by
  unfold required at success
  split at success
  next name datum found =>
    exact ⟨datum, Checked.within_eq_ok.mp success⟩
  next absent =>
    cases success

/-- A field that need not be present is missing or has a checked value. -/
theorem of_optional_eq_ok
    {names : List Text}
    {absent : α}
    {check : Datum → Checked α}
    {entries : List (Datum × Datum)}
    {value : α}
    (success : optional names absent check entries = .ok value) :
    value = absent ∨ ∃ datum, check datum = .ok value := by
  unfold optional at success
  split at success
  next name datum found =>
    exact Or.inr ⟨datum, Checked.within_eq_ok.mp success⟩
  next missing =>
    cases success
    exact Or.inl rfl

theorem entry?_ofMembers
    (name : Text)
    (members : List (RawText × Json)) :
    Datum.entry? name (Datum.ofMembers members) =
      (Entries.find? members name).map Datum.ofJson := by
  induction members with
  | nil =>
      rfl
  | cons member rest inductionHypothesis =>
      obtain ⟨other, value⟩ := member
      rw [Entries.find?_cons]
      unfold Datum.entry? at inductionHypothesis ⊢
      rw [Datum.ofMembers, List.find?_cons]
      by_cases same : name = other
      · subst same
        simp [Datum.sameKey, Datum.asNumber?]
      · have different :
            Datum.sameKey (.string other) (.string name) = false :=
          decide_eq_false fun equal => same equal.symm
        rw [if_neg same]
        simp only [different]
        exact inductionHypothesis

theorem present?_ofMembers
    {name : Text}
    {value : Json}
    {members : List (RawText × Json)}
    (found : Entries.find? members name = some value)
    (others : List Text) :
    present? (name :: others) (Datum.ofMembers members) =
      some (name, Datum.ofJson value) := by
  unfold present?
  rw [List.findSome?_cons, entry?_ofMembers, found]
  rfl

/-- A member that is needed is checked under its name. -/
theorem required_ofMembers
    {name : Text}
    {value : Json}
    {members : List (RawText × Json)}
    {check : Datum → Checked α}
    {result : α}
    (found : Entries.find? members name = some value)
    (others : List Text)
    (success : check (Datum.ofJson value) = .ok result) :
    required (name :: others) check (Datum.ofMembers members) = .ok result := by
  unfold required
  rw [present?_ofMembers found others]
  exact Checked.within_eq_ok.mpr success

/-- A member that is there is checked under its name. -/
theorem optional_ofMembers
    {name : Text}
    {value : Json}
    {members : List (RawText × Json)}
    {check : Datum → Checked α}
    {result : α}
    (absent : α)
    (found : Entries.find? members name = some value)
    (others : List Text)
    (success : check (Datum.ofJson value) = .ok result) :
    optional (name :: others) absent check (Datum.ofMembers members) =
      .ok result := by
  unfold optional
  rw [present?_ofMembers found others]
  exact Checked.within_eq_ok.mpr success

/-- Without a member of any of the names nothing is checked. -/
theorem optional_ofMembers_missing
    {names : List Text}
    {members : List (RawText × Json)}
    (absent : α)
    (check : Datum → Checked α)
    (missing : ∀ name ∈ names, Entries.find? members name = none) :
    optional names absent check (Datum.ofMembers members) = .ok absent := by
  have none : present? names (Datum.ofMembers members) = none := by
    unfold present?
    rw [List.findSome?_eq_none_iff]
    intro name member
    rw [entry?_ofMembers, missing name member]
    rfl
  unfold optional
  rw [none]

end Validation

end ContractTemplates
