import ContractTemplates.Proofs.Number.Plain
import ContractTemplates.Proofs.Variable.Coercion

namespace ContractTemplates

/-!
# Numbers in number fields

A field for numbers takes numbers and numerals. `Definition.number_printed_plain_iff` says which
of them it prints as plain numerals: those of whole numbers and of finite numbers that are at
least one ten-thousandth. Smaller ones are printed with an exponent, and numbers that are not
finite as words.
-/

/-- Whether a raw text is a plain numeral; halves of characters stand in none. -/
def RawText.IsPlainNumeral (raw : RawText) : Prop :=
  ∃ numeral : Text, raw = numeral.raw ∧ numeral.IsPlainNumeral

theorem RawText.isPlainNumeral_raw_iff
    {text : Text} :
    RawText.IsPlainNumeral text ↔ text.IsPlainNumeral := by
  simp [IsPlainNumeral]

namespace Definition

/--
A field for numbers prints the number that the raw data are or spell, as a plain numeral exactly
if the number is whole, or finite and at least one ten-thousandth.
-/
theorem number_printed_plain_iff
    {definition : Definition}
    {datum : Datum}
    {value : Value}
    (numeric : definition.kind = .number)
    (coerced : definition.coerce datum = .ok value) :
    ∃ number,
      datum.IsNumber number ∧
        value = .number number ∧
        (value.render.IsPlainNumeral ↔ number.HasPlainText) := by
  simp only [coerce, numeric] at coerced
  obtain ⟨number, given, rfl⟩ := Value.toNumber_eq_ok_iff.mp coerced
  exact ⟨number, given, rfl,
    RawText.isPlainNumeral_raw_iff.trans number.isPlainNumeral_text_iff⟩

/-- A rate of interest for each day. -/
def rateDefinition : Definition :=
  ⟨"rate".toList, .number, "Rate".toList, true, none, none⟩

/-- One ten-thousandth, spelled with an exponent, is printed as a plain numeral. -/
theorem number_printed_plain_iff_ofTenThousandth :
    rateDefinition.kind = .number ∧
      ∃ value,
        rateDefinition.coerce (.string " 1_0e-5 ".toList) = .ok value ∧
          value.render.IsPlainNumeral := by
  have coerced :
      rateDefinition.coerce (.string " 1_0e-5 ".toList) =
        .ok (.number (.double (.finite (FiniteDouble.tenThousandth false)))) := by
    decide +kernel
  obtain ⟨_, _, same, plain⟩ := rateDefinition.number_printed_plain_iff rfl coerced
  cases same
  refine ⟨rfl, _, coerced, plain.mpr (.inr ?_)⟩
  exact FiniteDouble.unitsPerOne_le_tenThousandth false

/-- A smaller number is printed with an exponent, however it is spelled. -/
theorem small_number_not_plain :
    rateDefinition.kind = .number ∧
      ∃ value,
        rateDefinition.coerce (.string "0.00001".toList) = .ok value ∧
          value.render = "1e-05".toList ∧
          ¬ value.render.IsPlainNumeral := by
  have printed :
      (Value.number (.double (.finite ⟨false, 5902958103587057, 1005, by decide⟩))).render =
        "1e-05".toList := by
    decide +kernel
  refine ⟨rfl, _, ?_, printed, ?_⟩
  · decide +kernel
  · rw [printed, RawText.isPlainNumeral_raw_iff]
    intro plain
    have mark : 'e' ∈ "1e-05".toList := by
      decide
    exact absurd (plain.mem mark) (by decide)

/-- A numeral beyond all doubles is printed as a word. -/
example :
    (rateDefinition.coerce (.string "-1e400".toList)).map Value.render =
      .ok "-inf".toList := by
  decide +kernel

end Definition

end ContractTemplates
