import ContractTemplates.Proofs.Number.Rounding

namespace ContractTemplates

/-!
# Decimals that read back

The shortest decimal of a number is rounded to that number:
`FiniteDouble.ofDecimal_shortest`. For this `FiniteDouble.ofDecimal_of_readsBack`
says that a decimal that reads back is rounded to the number, and
`FiniteDouble.shortest_readsBack` that the search for the shortest decimal succeeds:
seventeen digits always read back, because their grid is finer than the distance to
the halfway points.
-/

/-- A numeral of `n` digits is less than the power of ten with exponent `n`. -/
theorem Decimal.lt_pow_length
    (digits : Nat) :
    digits < 10 ^ (Nat.toDigits 10 digits).length :=
  (Nat.length_toDigits_le_iff (by decide) Nat.length_toDigits_pos).mp
    (Nat.le_refl _)

/-- A positive numeral is at least the power of ten of its first digit. -/
theorem Decimal.pow_length_le
    {digits : Nat}
    (positive : 0 < digits) :
    10 ^ ((Nat.toDigits 10 digits).length - 1) ≤ digits := by
  have nonempty : 0 < (Nat.toDigits 10 digits).length :=
    Nat.length_toDigits_pos
  by_contra less
  rcases Nat.eq_zero_or_pos ((Nat.toDigits 10 digits).length - 1) with
    single | several
  · rw [single] at less
    omega
  · have shorter :
        (Nat.toDigits 10 digits).length ≤
          (Nat.toDigits 10 digits).length - 1 :=
      (Nat.length_toDigits_le_iff (by decide) several).mpr
        (Nat.lt_of_not_le less)
    omega

namespace FiniteDouble

theorem scaled_eq
    (value : Nat)
    (exponent : Int) :
    scaled value exponent = value * 10 ^ (-exponent).toNat := by
  unfold scaled
  split
  · have same : exponent.natAbs = (-exponent).toNat := by
      omega
    rw [same]
    rfl
  · have none : (-exponent).toNat = 0 := by
      omega
    rw [none, Nat.pow_zero, Nat.mul_one]

/-- What a number covers does not depend on how the quotient is written. -/
theorem covers_mul_iff
    {x : FiniteDouble}
    {numerator denominator factor : Nat}
    (positive : 0 < factor) :
    x.Covers (numerator * factor) (denominator * factor) ↔
      x.Covers numerator denominator := by
  unfold Covers
  rw [← Nat.mul_assoc, ← Nat.mul_assoc, ← Nat.mul_assoc,
    Nat.mul_le_mul_right_iff positive, Nat.mul_le_mul_right_iff positive,
    Nat.mul_lt_mul_right positive, Nat.mul_lt_mul_right positive]

/-- A decimal reads back exactly if the number covers it. -/
theorem readsBack_iff_covers
    (x : FiniteDouble)
    (point : Nat)
    (exponent : Int) :
    x.readsBack point exponent = true ↔
      x.Covers
        (point * 10 ^ exponent.toNat * Binary64.unitsPerOne)
        (10 ^ (-exponent).toNat) := by
  have value :
      point * scaled quarterScale (-exponent) =
        4 * (point * 10 ^ exponent.toNat * Binary64.unitsPerOne) := by
    rw [scaled_eq, Int.neg_neg]
    unfold quarterScale
    ring
  unfold readsBack Covers
  dsimp only
  rw [value, scaled_eq, scaled_eq]
  generalize 4 * (point * 10 ^ exponent.toNat * Binary64.unitsPerOne) = middle
  rcases Nat.mod_two_eq_zero_or_one x.significand with even | odd
  · simp [even]
  · rw [odd, if_neg Nat.one_ne_zero]
    simp only [Bool.and_eq_true, decide_eq_true_eq]
    constructor
    · rintro ⟨low, high⟩
      exact ⟨Nat.le_of_lt low, Nat.le_of_lt high, fun _ => ⟨low, high⟩⟩
    · rintro ⟨_, _, strict⟩
      exact strict trivial

/-- Trailing zeros may be moved between the digits and the exponent. -/
theorem readsBack_mul_pow_iff
    (x : FiniteDouble)
    (point zeros : Nat)
    (exponent : Int) :
    x.readsBack (point * 10 ^ zeros) exponent = true ↔
      x.readsBack point (exponent + zeros) = true := by
  obtain ⟨common, upward, downward⟩ :
      ∃ common,
        zeros + exponent.toNat = (exponent + zeros).toNat + common ∧
          (-exponent).toNat = (-(exponent + zeros)).toNat + common := by
    refine ⟨zeros + exponent.toNat - (exponent + zeros).toNat, ?_, ?_⟩
    · omega
    · omega
  rw [readsBack_iff_covers, readsBack_iff_covers, downward, Nat.mul_assoc point,
    ← Nat.pow_add, upward, Nat.pow_add, Nat.pow_add, ← Nat.mul_assoc point,
    Nat.mul_right_comm _ (10 ^ common)]
  exact covers_mul_iff (Nat.pow_pos (by decide))

theorem significand_pos
    {x : FiniteDouble}
    (nonzero : x.units ≠ 0) :
    0 < x.significand := by
  apply Nat.pos_of_ne_zero
  intro none
  apply nonzero
  unfold units
  rw [none, Nat.zero_mul]

theorem lowerHalfway_pos
    {x : FiniteDouble}
    (nonzero : x.units ≠ 0) :
    0 < x.lowerHalfway := by
  have least := Nat.mul_le_mul_right (Nat.pow 2 x.shift) (significand_pos nonzero)
  have power : 0 < Nat.pow 2 x.shift :=
    Nat.pow_pos (by decide)
  unfold lowerHalfway quarters units
  split
  · omega
  · omega

/-- Every three binary places are less than one decimal place. -/
theorem two_pow_le_ten_pow
    {binary decimal : Nat}
    (enough : binary ≤ 3 * decimal) :
    2 ^ binary ≤ 10 ^ decimal :=
  calc
    2 ^ binary ≤ 2 ^ (3 * decimal) :=
      Nat.pow_le_pow_right (by decide) enough
    _ = 8 ^ decimal :=
      Nat.pow_mul 2 3 decimal
    _ ≤ 10 ^ decimal :=
      Nat.pow_le_pow_left (by decide) decimal

theorem quarterScale_eq
    {places : Nat}
    (count : places = 1076) :
    quarterScale = 2 ^ places := by
  unfold quarterScale Binary64.unitsPerOne
  generalize unitPlaces : 1074 = below
  have two : places = below + 2 := by
    omega
  rw [two, Nat.pow_add, Nat.mul_comm]
  rfl

/-- There are fewer than `10 ^ 359` quarters of a unit in one. -/
theorem quarterScale_le
    {reach : Nat}
    (enough : 359 ≤ reach) :
    quarterScale ≤ 10 ^ reach := by
  obtain ⟨places, count⟩ : ∃ places, places = 1076 :=
    ⟨1076, rfl⟩
  rw [quarterScale_eq count]
  apply two_pow_le_ten_pow
  omega

theorem quarterScale_pos :
    0 < quarterScale := by
  obtain ⟨places, count⟩ : ∃ places, places = 1076 :=
    ⟨1076, rfl⟩
  rw [quarterScale_eq count]
  exact Nat.pow_pos (by decide)

theorem upperHalfway_eq
    (x : FiniteDouble) :
    x.upperHalfway = (4 * x.significand + 2) * 2 ^ x.shift := by
  unfold upperHalfway quarters units
  rw [Nat.add_mul, Nat.mul_assoc]
  rfl

/-- No halfway point lies beyond `10 ^ 342`. -/
theorem upperHalfway_le
    (x : FiniteDouble)
    {reach : Nat}
    (enough : 342 ≤ reach) :
    x.upperHalfway ≤ quarterScale * 10 ^ reach := by
  obtain ⟨places, count⟩ : ∃ places, places = 1076 :=
    ⟨1076, rfl⟩
  have significand : 4 * x.significand + 2 ≤ 2 ^ 56 := by
    have fits : x.significand < 2 ^ 53 :=
      x.canonical.1
    omega
  have shift : x.shift ≤ 2045 :=
    x.canonical.2.1
  rw [upperHalfway_eq, quarterScale_eq count]
  calc
    (4 * x.significand + 2) * 2 ^ x.shift ≤ 2 ^ 56 * 2 ^ x.shift :=
      Nat.mul_le_mul_right _ significand
    _ = 2 ^ (56 + x.shift) :=
      (Nat.pow_add 2 56 x.shift).symm
    _ ≤ 2 ^ (places + 3 * reach) :=
      Nat.pow_le_pow_right (by decide) (by omega)
    _ = 2 ^ places * 2 ^ (3 * reach) :=
      Nat.pow_add 2 places (3 * reach)
    _ ≤ 2 ^ places * 10 ^ reach :=
      Nat.mul_le_mul_left _ (two_pow_le_ten_pow (Nat.le_refl _))

/-- The bounds of a decimal that reads back, without their strictness. -/
theorem bounds_of_readsBack
    {x : FiniteDouble}
    {point : Nat}
    {exponent : Int}
    (readable : x.readsBack point exponent = true) :
    x.lowerHalfway * 10 ^ (-exponent).toNat ≤
        point * 10 ^ exponent.toNat * quarterScale ∧
      point * 10 ^ exponent.toNat * quarterScale ≤
        x.upperHalfway * 10 ^ (-exponent).toNat := by
  obtain ⟨low, high, _⟩ := (readsBack_iff_covers ..).mp readable
  rw [Nat.mul_left_comm] at low high
  exact ⟨low, high⟩

/-- No decimal of zero reads back as another number. -/
theorem point_pos_of_readsBack
    {x : FiniteDouble}
    {point : Nat}
    {exponent : Int}
    (nonzero : x.units ≠ 0)
    (readable : x.readsBack point exponent = true) :
    0 < point := by
  have low := (bounds_of_readsBack readable).1
  have positive :=
    Nat.mul_pos (lowerHalfway_pos nonzero)
      (Nat.pow_pos (n := (-exponent).toNat) (show 0 < 10 by decide))
  apply Nat.pos_of_ne_zero
  intro none
  rw [none, Nat.zero_mul, Nat.zero_mul] at low
  omega

/-- A decimal that reads back is not far below the least double. -/
theorem lt_length_of_readsBack
    {x : FiniteDouble}
    {point reach : Nat}
    {exponent : Int}
    (enough : 359 ≤ reach)
    (nonzero : x.units ≠ 0)
    (readable : x.readsBack point exponent = true) :
    (-exponent).toNat <
      (Nat.toDigits 10 point).length + exponent.toNat + reach := by
  obtain ⟨low, _⟩ := bounds_of_readsBack readable
  apply (Nat.pow_lt_pow_iff_right (show 1 < 10 by decide)).mp
  calc
    10 ^ (-exponent).toNat ≤ x.lowerHalfway * 10 ^ (-exponent).toNat :=
      Nat.le_mul_of_pos_left _ (lowerHalfway_pos nonzero)
    _ ≤ point * 10 ^ exponent.toNat * quarterScale :=
      low
    _ ≤ point * 10 ^ exponent.toNat * 10 ^ reach :=
      Nat.mul_le_mul_left _ (quarterScale_le enough)
    _ < 10 ^ (Nat.toDigits 10 point).length * 10 ^ exponent.toNat *
        10 ^ reach :=
      Nat.mul_lt_mul_of_pos_right
        (Nat.mul_lt_mul_of_pos_right (Decimal.lt_pow_length point)
          (Nat.pow_pos (by decide)))
        (Nat.pow_pos (by decide))
    _ = 10 ^ ((Nat.toDigits 10 point).length + exponent.toNat + reach) := by
      rw [Nat.pow_add, Nat.pow_add]

/-- A decimal that reads back is not far beyond the greatest double. -/
theorem length_le_of_readsBack
    {x : FiniteDouble}
    {point reach : Nat}
    {exponent : Int}
    (enough : 359 ≤ reach)
    (nonzero : x.units ≠ 0)
    (readable : x.readsBack point exponent = true) :
    (Nat.toDigits 10 point).length - 1 + exponent.toNat ≤
      reach + (-exponent).toNat := by
  obtain ⟨_, high⟩ := bounds_of_readsBack readable
  apply (Nat.pow_le_pow_iff_right (show 1 < 10 by decide)).mp
  apply Nat.le_of_mul_le_mul_right _ quarterScale_pos
  calc
    10 ^ ((Nat.toDigits 10 point).length - 1 + exponent.toNat) *
          quarterScale ≤
        point * 10 ^ exponent.toNat * quarterScale := by
      rw [Nat.pow_add]
      exact Nat.mul_le_mul_right _
        (Nat.mul_le_mul_right _
          (Decimal.pow_length_le (point_pos_of_readsBack nonzero readable)))
    _ ≤ x.upperHalfway * 10 ^ (-exponent).toNat :=
      high
    _ ≤ quarterScale * 10 ^ reach * 10 ^ (-exponent).toNat :=
      Nat.mul_le_mul_right _ (x.upperHalfway_le (by omega))
    _ = 10 ^ (reach + (-exponent).toNat) * quarterScale := by
      rw [Nat.mul_assoc, ← Nat.pow_add, Nat.mul_comm]

/-- A decimal that reads back has its first digit within reach of the doubles. -/
theorem places_of_readsBack
    {x : FiniteDouble}
    {point reach : Nat}
    {exponent : Int}
    (enough : 359 ≤ reach)
    (nonzero : x.units ≠ 0)
    (readable : x.readsBack point exponent = true) :
    -reach ≤ ((Nat.toDigits 10 point).length + exponent : Int) ∧
      ((Nat.toDigits 10 point).length + exponent : Int) ≤ reach + 1 := by
  have longer := lt_length_of_readsBack enough nonzero readable
  have shorter := length_le_of_readsBack enough nonzero readable
  constructor
  · omega
  · omega

/-- A decimal that reads back is rounded to the number. -/
theorem ofDecimal_of_readsBack
    {x : FiniteDouble}
    {point : Nat}
    {exponent : Int}
    (nonzero : x.units ≠ 0)
    (readable : x.readsBack point exponent = true) :
    Binary64.ofDecimal x.negative point exponent = .finite x := by
  have positive := point_pos_of_readsBack nonzero readable
  obtain ⟨least, most⟩ :=
    places_of_readsBack (Nat.le_refl 359) nonzero readable
  have covered := (readsBack_iff_covers ..).mp readable
  have rounded :=
    ofUnits_eq_finite (Nat.pow_pos (show 0 < 10 by decide)) covered
  unfold Binary64.ofDecimal
  dsimp only
  rw [if_neg (by omega), if_neg (by omega)]
  split
  · have whole : exponent.toNat = 0 := by
      omega
    have places : exponent.natAbs = (-exponent).toNat := by
      omega
    rw [whole, Nat.pow_zero, Nat.mul_one] at rounded
    rw [places]
    exact rounded
  · have whole : exponent.natAbs = exponent.toNat := by
      omega
    have places : (-exponent).toNat = 0 := by
      omega
    rw [places, Nat.pow_zero] at rounded
    rw [whole]
    exact rounded

/-- The power of ten of the first digit is at most the number. -/
theorem leadingExponent_le
    {numerator denominator : Nat}
    (positive : 0 < numerator)
    (divisible : 0 < denominator) :
    denominator * 10 ^ (leadingExponent numerator denominator).toNat ≤
      numerator * 10 ^ (-leadingExponent numerator denominator).toNat := by
  unfold leadingExponent
  split
  next large =>
    have quotient : 0 < numerator / denominator :=
      Nat.div_pos large divisible
    have first := Decimal.pow_length_le quotient
    have nonempty :
        0 < (Nat.toDigits 10 (numerator / denominator)).length :=
      Nat.length_toDigits_pos
    generalize (Nat.toDigits 10 (numerator / denominator)).length = count at *
    have whole : ((count : Int) - 1).toNat = count - 1 := by
      omega
    have places : (-((count : Int) - 1)).toNat = 0 := by
      omega
    rw [whole, places, Nat.pow_zero, Nat.mul_one, Nat.mul_comm]
    exact (Nat.le_div_iff_mul_le divisible).mp first
  next small =>
    have next := Decimal.lt_pow_length ((denominator - 1) / numerator)
    generalize (Nat.toDigits 10 ((denominator - 1) / numerator)).length =
      count at *
    have whole : (-(count : Int)).toNat = 0 := by
      omega
    have places : (- -(count : Int)).toNat = count := by
      omega
    rw [whole, places, Nat.pow_zero, Nat.mul_one]
    rw [Nat.div_lt_iff_lt_mul positive, Nat.mul_comm] at next
    omega

/-- Rounding to a whole number moves a quotient by at most one half. -/
theorem roundedQuotient_within
    (numerator : Nat)
    {denominator : Nat}
    (positive : 0 < denominator) :
    2 * numerator ≤
        2 * (Binary64.roundedQuotient numerator denominator * denominator) +
          denominator ∧
      2 * (Binary64.roundedQuotient numerator denominator * denominator) ≤
        2 * numerator + denominator := by
  have division := Nat.div_add_mod numerator denominator
  have rest := Nat.mod_lt numerator positive
  rw [Nat.mul_comm] at division
  unfold Binary64.roundedQuotient
  dsimp only
  split
  · omega
  · have expanded :
        (numerator / denominator + 1) * denominator =
          numerator / denominator * denominator + denominator :=
      Nat.succ_mul ..
    omega

/-- A grid is fine enough if its step is less than twice the distance to a halfway point. -/
theorem nearest_readsBack
    {x : FiniteDouble}
    {exponent : Int}
    (fine :
      x.lowerHalfway * 10 ^ (-exponent).toNat * 2 +
          quarterScale * 10 ^ exponent.toNat <
        x.quarters * 10 ^ (-exponent).toNat * 2) :
    x.readsBack
        (Binary64.roundedQuotient
          (scaled x.quarters exponent) (scaled quarterScale (-exponent)))
        exponent =
      true := by
  rw [scaled_eq, scaled_eq, Int.neg_neg]
  have positive : 0 < quarterScale * 10 ^ exponent.toNat :=
    Nat.mul_pos quarterScale_pos (Nat.pow_pos (by decide))
  obtain ⟨high, low⟩ :=
    roundedQuotient_within (x.quarters * 10 ^ (-exponent).toNat) positive
  have symmetric :
      x.quarters * 10 ^ (-exponent).toNat * 2 ≤
        x.lowerHalfway * 10 ^ (-exponent).toNat +
          x.upperHalfway * 10 ^ (-exponent).toNat := by
    have narrow := x.quarters_le_lowerHalfway
    have halves : x.quarters * 2 ≤ x.lowerHalfway + x.upperHalfway := by
      unfold upperHalfway
      omega
    rw [← Nat.add_mul, Nat.mul_right_comm]
    exact Nat.mul_le_mul_right _ halves
  generalize Binary64.roundedQuotient (x.quarters * 10 ^ (-exponent).toNat)
    (quarterScale * 10 ^ exponent.toNat) = nearest at *
  rw [readsBack_iff_covers]
  have value :
      4 * (nearest * 10 ^ exponent.toNat * Binary64.unitsPerOne) =
        nearest * (quarterScale * 10 ^ exponent.toNat) := by
    unfold quarterScale
    ring
  unfold Covers
  rw [value]
  refine ⟨by omega, by omega, fun _ => ⟨by omega, by omega⟩⟩

/-- The distance to the lower halfway point has sixteen places less than the number. -/
theorem quarters_lt_distance
    {x : FiniteDouble}
    (nonzero : x.units ≠ 0) :
    x.quarters + 2 * 10 ^ 16 * x.lowerHalfway < 2 * 10 ^ 16 * x.quarters := by
  have positive := significand_pos nonzero
  have fits : x.significand < 9007199254740992 :=
    x.canonical.1
  have place : 0 < Nat.pow 2 x.shift :=
    Nat.pow_pos (by decide)
  have least := Nat.mul_le_mul_right (Nat.pow 2 x.shift) positive
  have most := Nat.mul_lt_mul_of_pos_right fits place
  unfold lowerHalfway quarters units
  split
  next power =>
    have half : x.significand = 4503599627370496 :=
      power.1
    rw [half] at least ⊢
    omega
  next =>
    omega

/-- The grid of seventeen digits is fine enough for every number. -/
theorem seventeen_digits_fine
    {x : FiniteDouble}
    {exponent : Int}
    (nonzero : x.units ≠ 0)
    (grid : exponent = leadingExponent x.quarters quarterScale - 16) :
    x.lowerHalfway * 10 ^ (-exponent).toNat * 2 +
        quarterScale * 10 ^ exponent.toNat <
      x.quarters * 10 ^ (-exponent).toNat * 2 := by
  have quarters : 0 < x.quarters :=
    Nat.mul_pos (by decide) (Nat.pos_of_ne_zero nonzero)
  have first := leadingExponent_le quarters quarterScale_pos
  generalize leadingExponent x.quarters quarterScale = leading at first grid
  have sameTens :
      10 ^ exponent.toNat * 10 ^ 16 * 10 ^ (-leading).toNat =
        10 ^ leading.toNat * 10 ^ (-exponent).toNat := by
    rw [← Nat.pow_add, ← Nat.pow_add, ← Nat.pow_add]
    congr 1
    omega
  have digits :
      quarterScale * 10 ^ exponent.toNat * 10 ^ 16 ≤
        x.quarters * 10 ^ (-exponent).toNat := by
    apply Nat.le_of_mul_le_mul_right _
      (Nat.pow_pos (n := (-leading).toNat) (show 0 < 10 by decide))
    calc
      quarterScale * 10 ^ exponent.toNat * 10 ^ 16 * 10 ^ (-leading).toNat =
          quarterScale * 10 ^ leading.toNat * 10 ^ (-exponent).toNat := by
        rw [Nat.mul_assoc quarterScale, Nat.mul_assoc quarterScale, sameTens,
          Nat.mul_assoc]
      _ ≤ x.quarters * 10 ^ (-leading).toNat * 10 ^ (-exponent).toNat :=
        Nat.mul_le_mul_right _ first
      _ = x.quarters * 10 ^ (-exponent).toNat * 10 ^ (-leading).toNat :=
        Nat.mul_right_comm ..
  have distance :=
    Nat.mul_lt_mul_of_pos_right (quarters_lt_distance nonzero)
      (Nat.pow_pos (n := (-exponent).toNat) (show 0 < 10 by decide))
  rw [Nat.add_mul, Nat.mul_assoc, Nat.mul_assoc _ x.quarters] at distance
  omega

theorem gridPoint?_readsBack
    {x : FiniteDouble}
    {exponent : Int}
    {decimal : Decimal}
    (found : x.gridPoint? exponent = some decimal) :
    x.readsBack decimal.digits decimal.exponent = true := by
  unfold gridPoint? at found
  dsimp only at found
  generalize scaled x.quarters exponent / scaled quarterScale (-exponent) =
    below at found
  generalize Binary64.roundedQuotient _ _ = nearest at found
  generalize (if nearest = below then below + 1 else below) = further at found
  split at found
  next readable =>
    cases found
    exact readable
  next =>
    split at found
    next readable =>
      cases found
      exact readable
    next =>
      cases found

theorem gridPoint?_ne_none
    {x : FiniteDouble}
    {exponent : Int}
    (readable :
      x.readsBack
          (Binary64.roundedQuotient
            (scaled x.quarters exponent) (scaled quarterScale (-exponent)))
          exponent =
        true) :
    x.gridPoint? exponent ≠ none := by
  unfold gridPoint?
  dsimp only
  rw [if_pos readable]
  exact Option.some_ne_none _

/-- The shortest decimal of a number other than zero reads back. -/
theorem shortest_readsBack
    {x : FiniteDouble}
    (nonzero : x.units ≠ 0) :
    x.readsBack x.shortest.digits x.shortest.exponent = true := by
  unfold shortest
  dsimp only
  split
  next decimal found =>
    obtain ⟨more, _, point⟩ := List.exists_of_findSome?_eq_some found
    exact gridPoint?_readsBack point
  next absent =>
    have last := List.findSome?_eq_none_iff.mp absent 16 (by decide)
    exact absurd last
      (gridPoint?_ne_none
        (nearest_readsBack (seventeen_digits_fine nonzero rfl)))

/-- The shortest decimal is rounded to the number it was made from. -/
theorem ofDecimal_shortest
    {x : FiniteDouble}
    (nonzero : x.units ≠ 0) :
    Binary64.ofDecimal x.negative x.shortest.digits x.shortest.exponent =
      .finite x :=
  ofDecimal_of_readsBack nonzero (shortest_readsBack nonzero)

end FiniteDouble

end ContractTemplates
