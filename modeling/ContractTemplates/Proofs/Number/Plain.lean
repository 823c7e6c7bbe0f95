import ContractTemplates.Proofs.Number.Spelling

namespace ContractTemplates

/-!
# Plain numerals

A plain numeral has a minus or none, digits, and a point with digits behind it or none. Integers
and whole doubles are always written so. Any other finite double is if it is at least one
ten-thousandth: its shortest decimal then has its first digit in the range that the exact layout
writes without an exponent. `Number.isPlainNumeral_text_iff` puts this together.

The bound is exact although it is the decimal that is written and not the number. A decimal on
the other side of one ten-thousandth would have that quotient between itself and the number, so
that the number would be the one which is rounded to from it: `FiniteDouble.eq_of_covers`.
-/

namespace Text

/-- Whether a text is one or more digits. -/
def IsDigits (text : Text) : Prop :=
  text ≠ [] ∧ ∀ c ∈ text, c.isDigit = true

/-- Whether a text is digits, and a point with digits behind it or none. -/
inductive IsPlainMagnitude : Text → Prop where
  | whole
      {whole : Text}
      (digits : whole.IsDigits) :
      IsPlainMagnitude whole
  | fraction
      {whole places : Text}
      (digits : whole.IsDigits)
      (further : places.IsDigits) :
      IsPlainMagnitude (whole ++ '.' :: places)

/-- Whether a text is a decimal numeral without an exponent, a separator or a word. -/
inductive IsPlainNumeral : Text → Prop where
  | unsigned
      {magnitude : Text}
      (plain : magnitude.IsPlainMagnitude) :
      IsPlainNumeral magnitude
  | negative
      {magnitude : Text}
      (plain : magnitude.IsPlainMagnitude) :
      IsPlainNumeral ('-' :: magnitude)

variable
  {text : Text}
  {c : Char}

theorem IsPlainMagnitude.mem
    (plain : text.IsPlainMagnitude)
    (member : c ∈ text) :
    c.isDigit = true ∨ c = '.' := by
  cases plain with
  | whole digits =>
      exact .inl (digits.2 c member)
  | fraction digits further =>
      rw [List.mem_append, List.mem_cons] at member
      rcases member with digit | point | place
      · exact .inl (digits.2 c digit)
      · exact .inr point
      · exact .inl (further.2 c place)

theorem IsPlainNumeral.mem
    (plain : text.IsPlainNumeral)
    (member : c ∈ text) :
    c.isDigit = true ∨ c = '.' ∨ c = '-' := by
  cases plain with
  | unsigned plain =>
      exact or_assoc.mp (.inl (plain.mem member))
  | negative plain =>
      rcases List.mem_cons.mp member with minus | later
      · exact .inr (.inr minus)
      · exact or_assoc.mp (.inl (plain.mem later))

theorem IsPlainMagnitude.signed
    (plain : text.IsPlainMagnitude)
    (negative : Bool) :
    IsPlainNumeral (Binary64.signed negative text) := by
  cases negative with
  | false =>
      exact .unsigned plain
  | true =>
      exact .negative plain

theorem isDigits_toDigits
    (n : Nat) :
    IsDigits (Nat.toDigits 10 n) :=
  ⟨Nat.toDigits_ne_nil, isDigit_toDigits n⟩

theorem isPlainNumeral_ofInt
    (n : Int) :
    IsPlainNumeral (ofInt n) := by
  have plain := IsPlainMagnitude.whole (isDigits_toDigits n.natAbs)
  unfold ofInt
  split
  · exact .negative plain
  · exact .unsigned plain

end Text

namespace DecimalParts

variable
  {parts : DecimalParts}

theorem IsFractional.whole_isDigits
    (fractional : parts.IsFractional) :
    parts.whole.IsDigits := by
  refine ⟨?_, fractional.wholeDigits⟩
  rcases fractional.wholeStart with zero | ⟨c, rest, shape, _⟩
  · simp [zero]
  · simp [shape]

/-- A numeral is plain exactly if it has no exponent. -/
theorem IsFractional.isPlainNumeral_iff
    (fractional : parts.IsFractional)
    (negative : Bool) :
    Text.IsPlainNumeral (Binary64.signed negative parts.text) ↔ parts.exponent = none := by
  constructor
  · intro plain
    cases exponent : parts.exponent with
    | none =>
        rfl
    | some value =>
        have mark : 'e' ∈ parts.text := by
          simp [text, exponent, exponentText, DecimalLayout.exponentText]
        have member : 'e' ∈ Binary64.signed negative parts.text := by
          cases negative with
          | false =>
              exact mark
          | true =>
              exact List.mem_cons_of_mem _ mark
        exact absurd (plain.mem member) (by decide)
  · intro none
    have places : parts.places ≠ [] :=
      fractional.fractional.resolve_right (not_not.mpr none)
    have written : parts.text = parts.whole ++ '.' :: parts.places := by
      simp [text, fractionText, exponentText, places, none]
    rw [written]
    have plain := Text.IsPlainMagnitude.fraction fractional.whole_isDigits
      ⟨places, fractional.placesDigits⟩
    exact plain.signed negative

end DecimalParts

/-- The first digit of a decimal tells between which powers of ten the decimal lies. -/
theorem Decimal.le_leading_iff
    {decimal : Decimal}
    (positive : 0 < decimal.digits)
    (up down : Nat) :
    (up : Int) - down ≤ decimal.leading ↔
      10 ^ (up + (-decimal.exponent).toNat) ≤
        decimal.digits * 10 ^ (decimal.exponent.toNat + down) := by
  have least := Decimal.pow_length_le positive
  have most := Decimal.lt_pow_length decimal.digits
  have nonempty : 0 < (Nat.toDigits 10 decimal.digits).length :=
    Nat.length_toDigits_pos
  unfold leading
  generalize (Nat.toDigits 10 decimal.digits).length = count at *
  constructor
  · intro within
    calc
      10 ^ (up + (-decimal.exponent).toNat) ≤
          10 ^ (count - 1 + (decimal.exponent.toNat + down)) :=
        Nat.pow_le_pow_right (by decide) (by omega)
      _ = 10 ^ (count - 1) * 10 ^ (decimal.exponent.toNat + down) :=
        Nat.pow_add ..
      _ ≤ decimal.digits * 10 ^ (decimal.exponent.toNat + down) :=
        Nat.mul_le_mul_right _ least
  · intro reached
    by_contra short
    have beyond :=
      calc
        decimal.digits * 10 ^ (decimal.exponent.toNat + down) <
            10 ^ count * 10 ^ (decimal.exponent.toNat + down) :=
          Nat.mul_lt_mul_of_pos_right most (Nat.pow_pos (by decide))
        _ = 10 ^ (count + (decimal.exponent.toNat + down)) :=
          (Nat.pow_add ..).symm
        _ ≤ 10 ^ (up + (-decimal.exponent).toNat) :=
          Nat.pow_le_pow_right (by decide) (by omega)
    omega

namespace FiniteDouble

variable
  {x : FiniteDouble}

theorem lowerHalfway_lt
    (nonzero : x.units ≠ 0) :
    x.lowerHalfway < 4 * x.units := by
  have power : 0 < Nat.pow 2 x.shift :=
    Nat.pow_pos (by decide)
  unfold lowerHalfway quarters
  split <;>
    omega

theorem lt_upperHalfway
    (x : FiniteDouble) :
    4 * x.units < x.upperHalfway := by
  have power : 0 < Nat.pow 2 x.shift :=
    Nat.pow_pos (by decide)
  unfold upperHalfway quarters
  omega

/-- What lies between a number and a greater quotient that it covers is covered as well. -/
theorem Covers.of_le
    {numerator denominator value scale : Nat}
    (covered : x.Covers numerator denominator)
    (nonzero : x.units ≠ 0)
    (divisible : 0 < denominator)
    (scaled : 0 < scale)
    (above : x.units * scale ≤ value)
    (below : value * denominator ≤ numerator * scale) :
    x.Covers value scale := by
  obtain ⟨_, high, strict⟩ := covered
  have low : x.lowerHalfway * scale < 4 * value := by
    calc
      x.lowerHalfway * scale < 4 * x.units * scale :=
        Nat.mul_lt_mul_of_pos_right (lowerHalfway_lt nonzero) scaled
      _ ≤ 4 * value := by
        rw [Nat.mul_assoc]
        exact Nat.mul_le_mul_left 4 above
  refine ⟨low.le, ?_, fun odd => ⟨low, ?_⟩⟩
  · apply Nat.le_of_mul_le_mul_right _ divisible
    nlinarith
  · apply Nat.lt_of_mul_lt_mul_right (a := denominator)
    nlinarith [(strict odd).2]

/-- What lies between a number and a smaller quotient that it covers is covered as well. -/
theorem Covers.of_ge
    {numerator denominator value scale : Nat}
    (covered : x.Covers numerator denominator)
    (divisible : 0 < denominator)
    (scaled : 0 < scale)
    (below : value ≤ x.units * scale)
    (above : numerator * scale ≤ value * denominator) :
    x.Covers value scale := by
  obtain ⟨low, _, strict⟩ := covered
  have high : 4 * value < x.upperHalfway * scale := by
    calc
      4 * value ≤ 4 * x.units * scale := by
        rw [Nat.mul_assoc]
        exact Nat.mul_le_mul_left 4 below
      _ < x.upperHalfway * scale :=
        Nat.mul_lt_mul_of_pos_right x.lt_upperHalfway scaled
  refine ⟨?_, high.le, fun odd => ⟨?_, high⟩⟩
  · apply Nat.le_of_mul_le_mul_right _ divisible
    nlinarith
  · apply Nat.lt_of_mul_lt_mul_right (a := denominator)
    nlinarith [(strict odd).1]

/-- The double nearest to one ten-thousandth, with a sign. -/
def tenThousandth (negative : Bool) : FiniteDouble :=
  ⟨negative, 7378697629483821, 1008, by decide⟩

theorem shortest_tenThousandth
    (negative : Bool) :
    (tenThousandth negative).shortest = ⟨1, -4⟩ := by
  cases negative <;>
    decide +kernel

theorem unitsPerOne_le_tenThousandth
    (negative : Bool) :
    Binary64.unitsPerOne ≤ 10000 * (tenThousandth negative).units := by
  cases negative <;>
    decide +kernel

/-- Only one double of each sign is rounded to from one ten-thousandth. -/
theorem eq_of_covers
    (covered : x.Covers Binary64.unitsPerOne 10000) :
    x = tenThousandth x.negative := by
  have rounded := ofUnits_eq_finite (by decide) covered
  have nearest (negative : Bool) :
      Binary64.ofUnits negative Binary64.unitsPerOne 10000 =
        .finite (tenThousandth negative) := by
    cases negative <;>
      decide +kernel
  rw [nearest] at rounded
  exact (Binary64.finite.inj rounded).symm

/-- The shortest decimal is at least one ten-thousandth exactly if the number is. -/
theorem le_leading_shortest_iff
    (nonzero : x.units ≠ 0) :
    -4 ≤ x.shortest.leading ↔ Binary64.unitsPerOne ≤ 10000 * x.units := by
  have readable := shortest_readsBack nonzero
  have covered := (readsBack_iff_covers ..).mp readable
  have reaches := Decimal.le_leading_iff (point_pos_of_readsBack nonzero readable) 0 4
  have divisible : 0 < 10 ^ (-x.shortest.exponent).toNat :=
    Nat.pow_pos (by decide)
  rw [Nat.zero_add, Nat.pow_add, ← Nat.mul_assoc] at reaches
  generalize 10 ^ (-x.shortest.exponent).toNat = scale at reaches covered divisible
  generalize x.shortest.digits * 10 ^ x.shortest.exponent.toNat = value at reaches covered
  constructor
  · intro reached
    by_contra small
    have between : x.Covers Binary64.unitsPerOne 10000 := by
      refine covered.of_le nonzero divisible (by decide) (by omega) ?_
      rw [Nat.mul_comm Binary64.unitsPerOne, Nat.mul_right_comm value]
      exact Nat.mul_le_mul_right _ (reaches.mp reached)
    have large := unitsPerOne_le_tenThousandth x.negative
    rw [← eq_of_covers between] at large
    exact small large
  · intro large
    by_contra short
    have between : x.Covers Binary64.unitsPerOne 10000 := by
      refine covered.of_ge divisible (by decide) (by omega) ?_
      rw [Nat.mul_comm Binary64.unitsPerOne, Nat.mul_right_comm value]
      exact Nat.mul_le_mul_right _ (Nat.le_of_not_le (mt reaches.mpr short))
    rw [eq_of_covers between, shortest_tenThousandth] at short
    exact short (by decide)

/-- A number whose last place counts ones or more is whole. -/
theorem shift_lt_of_not_isInteger
    {places : Nat}
    (count : places = 1074)
    (broken : ¬ x.isInteger = true) :
    x.shift < places := by
  by_contra far
  have ones : Binary64.unitsPerOne = 2 ^ places := by
    unfold Binary64.unitsPerOne
    rw [← count]
    rfl
  have divides : 2 ^ places ∣ x.units :=
    Dvd.dvd.mul_left (Nat.pow_dvd_pow 2 (Nat.le_of_not_lt far)) x.significand
  apply broken
  unfold isInteger
  rw [ones]
  exact decide_eq_true (Nat.mod_eq_zero_of_dvd divides)

/-- A number that is not whole has fewer than seventeen places before the point. -/
theorem leading_shortest_lt
    (broken : ¬ x.isInteger = true)
    (nonzero : x.units ≠ 0) :
    x.shortest.leading < 16 := by
  obtain ⟨places, count⟩ : ∃ places, places = 1074 :=
    ⟨1074, rfl⟩
  have shift := shift_lt_of_not_isInteger count broken
  have room : x.upperHalfway < 10 ^ 16 * quarterScale := by
    have significand : 4 * x.significand + 2 ≤ 4 * 10 ^ 16 := by
      have fits : x.significand < 2 ^ 53 :=
        x.canonical.1
      omega
    have positive : 0 < 2 ^ places :=
      Nat.pow_pos (by decide)
    rw [upperHalfway_eq, quarterScale_eq (congrArg (· + 2) count)]
    calc
      (4 * x.significand + 2) * 2 ^ x.shift ≤ 4 * 10 ^ 16 * 2 ^ x.shift :=
        Nat.mul_le_mul_right _ significand
      _ < 4 * 10 ^ 16 * 2 ^ places :=
        Nat.mul_lt_mul_of_pos_left (Nat.pow_lt_pow_right (by decide) shift) (by decide)
      _ = 10 ^ 16 * 2 ^ (places + 2) := by
        ring
  have readable := shortest_readsBack nonzero
  obtain ⟨_, high⟩ := bounds_of_readsBack readable
  by_contra reached
  have above :=
    (Decimal.le_leading_iff (point_pos_of_readsBack nonzero readable) 16 0).mp
      (Int.not_lt.mp reached)
  rw [Nat.add_zero, Nat.pow_add] at above
  have scaled : 0 < 10 ^ (-x.shortest.exponent).toNat :=
    Nat.pow_pos (by decide)
  generalize 10 ^ (-x.shortest.exponent).toNat = scale at *
  generalize x.shortest.digits * 10 ^ x.shortest.exponent.toNat = value at *
  generalize quarterScale = ones at *
  have within :=
    calc
      10 ^ 16 * ones * scale = 10 ^ 16 * scale * ones :=
        Nat.mul_right_comm ..
      _ ≤ value * ones :=
        Nat.mul_le_mul_right _ above
      _ ≤ x.upperHalfway * scale :=
        high
  exact Nat.not_le_of_lt room (Nat.le_of_mul_le_mul_right within scaled)

/-- A double that is not whole is written plainly exactly if it is large enough. -/
theorem isPlainNumeral_text_iff
    (broken : ¬ x.isInteger = true) :
    (Binary64.finite x).text.IsPlainNumeral ↔
      Binary64.unitsPerOne ≤ 10000 * x.units := by
  have nonzero : x.units ≠ 0 := by
    intro nothing
    apply broken
    simp [isInteger, nothing]
  obtain ⟨parts, written, positional, fractional, _⟩ :=
    DecimalLayout.exact_write
      (point_pos_of_readsBack nonzero (shortest_readsBack nonzero))
  simp only [Binary64.text, if_neg nonzero, written]
  rw [fractional.isPlainNumeral_iff, positional, ← le_leading_shortest_iff nonzero]
  exact and_iff_left (leading_shortest_lt broken nonzero)

end FiniteDouble

namespace Number

/-- Whether a number is whole, or finite and at least one ten-thousandth. -/
def HasPlainText : Number → Prop
  | integer _ => True
  | double (.finite x) =>
      x.isInteger = true ∨ Binary64.unitsPerOne ≤ 10000 * x.units
  | double _ => False

/-- Exactly the numbers that are whole or large enough are written as plain numerals. -/
theorem isPlainNumeral_text_iff
    (number : Number) :
    number.text.IsPlainNumeral ↔ number.HasPlainText := by
  match number with
  | .integer value =>
      exact iff_of_true (Text.isPlainNumeral_ofInt value) trivial
  | .double (.finite x) =>
      rw [text, HasPlainText]
      split
      · next whole =>
          exact iff_of_true (Text.isPlainNumeral_ofInt x.toInt) (.inl whole)
      · next broken =>
          rw [x.isPlainNumeral_text_iff broken, or_iff_right broken]
  | .double (.infinite negative) =>
      refine iff_of_false (fun plain => ?_) id
      have letter : 'n' ∈ Binary64.signed negative ['i', 'n', 'f'] := by
        cases negative <;>
          decide
      exact absurd (plain.mem letter) (by decide)
  | .double .notANumber =>
      refine iff_of_false (fun plain => ?_) id
      exact absurd (plain.mem List.mem_cons_self) (by decide)

end Number

end ContractTemplates
