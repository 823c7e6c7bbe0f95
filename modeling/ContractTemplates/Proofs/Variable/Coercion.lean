import ContractTemplates.Variable.Coercion

namespace ContractTemplates

/-!
# Kinds of coerced values

Each coercion gives values of one kind only. `Datum.IsNumber` says which number raw data
come to. Text values come from text alone: the coercions that change what they are given
make numbers, truth values and days, and `Definition.eq_string_of_coerce` says that a text
value is the text that was given.
-/

/-- The number that raw data are, or that they spell. -/
inductive Datum.IsNumber : Datum → Number → Prop where
  | number (value : Number) : Datum.IsNumber (.number value) value
  | numeral
      {raw : RawText} {value : Number}
      (read : Numeral.number? raw.shown = some value) :
      Datum.IsNumber (.string raw) value

namespace Value

variable
  {datum : Datum}
  {value : Value}

theorem toNumber_eq_ok_iff :
    toNumber datum = .ok value ↔ ∃ number, datum.IsNumber number ∧ value = .number number := by
  constructor
  · intro coerced
    unfold toNumber at coerced
    split at coerced
    · next number =>
        cases coerced
        exact ⟨number, .number number, rfl⟩
    · split at coerced
      · next number read =>
          cases coerced
          exact ⟨number, .numeral read, rfl⟩
      · cases coerced
    · cases coerced
  · rintro ⟨number, _ | read, rfl⟩
    · rfl
    · simp [toNumber, read]

theorem exists_of_toNumber
    (coerced : toNumber datum = .ok value) :
    ∃ found, value = .number found := by
  obtain ⟨found, _, same⟩ := toNumber_eq_ok_iff.mp coerced
  exact ⟨found, same⟩

theorem exists_of_toBoolean
    (coerced : toBoolean datum = .ok value) :
    ∃ found, value = .boolean found := by
  unfold toBoolean at coerced
  split at coerced
  · cases coerced
    exact ⟨_, rfl⟩
  · dsimp only at coerced
    split at coerced
    · cases coerced
      exact ⟨_, rfl⟩
    · split at coerced
      · cases coerced
        exact ⟨_, rfl⟩
      · cases coerced
  · cases coerced

theorem exists_of_toDate
    (coerced : toDate datum = .ok value) :
    ∃ found, value = .date found := by
  unfold toDate at coerced
  split at coerced
  · cases coerced
    exact ⟨_, rfl⟩
  · cases coerced
    exact ⟨_, rfl⟩
  · split at coerced
    · cases coerced
      exact ⟨_, rfl⟩
    · cases coerced
  · cases coerced

/-- A choice is one of the options, as it was given. -/
theorem exists_of_toOption
    {options : List RawText}
    (coerced : toOption options datum = .ok value) :
    ∃ text ∈ options, datum = .string text ∧ value = .text text := by
  unfold toOption at coerced
  split at coerced
  · next text =>
      split at coerced
      · next member =>
          cases coerced
          exact ⟨text, member, rfl, rfl⟩
      · cases coerced
  · cases coerced

theorem eq_string_of_infer
    {text : RawText}
    (inferred : infer datum = .ok (.text text)) :
    datum = .string text := by
  unfold infer at inferred
  split at inferred <;>
    cases inferred
  rfl

end Value

/-- Whatever a definition asks for, only text becomes a text value, and as it is. -/
theorem Definition.eq_string_of_coerce
    {definition : Definition}
    {datum : Datum}
    {text : RawText}
    (coerced : definition.coerce datum = .ok (.text text)) :
    datum = .string text := by
  cases kind : definition.kind with
  | text =>
      simp only [coerce, kind] at coerced
      exact Value.eq_string_of_infer coerced
  | number =>
      simp only [coerce, kind] at coerced
      obtain ⟨_, impossible⟩ := Value.exists_of_toNumber coerced
      cases impossible
  | boolean =>
      simp only [coerce, kind] at coerced
      obtain ⟨_, impossible⟩ := Value.exists_of_toBoolean coerced
      cases impossible
  | date =>
      simp only [coerce, kind] at coerced
      obtain ⟨_, impossible⟩ := Value.exists_of_toDate coerced
      cases impossible
  | select =>
      simp only [coerce, kind] at coerced
      obtain ⟨_, _, given, same⟩ := Value.exists_of_toOption coerced
      cases same
      exact given

end ContractTemplates
