import Mathlib.Tactic.Linarith
import Mathlib.Tactic.Ring
import ContractTemplates.Number.Shortest

namespace ContractTemplates

/-!
# Rounding to the nearest double

`FiniteDouble.Covers` is the set of quotients that are rounded to a double: those
between the two halfway points, where the halfway points themselves count for an
even significand. `FiniteDouble.ofUnits_eq_finite` says that rounding sends each
of them to that double.
-/

namespace Binary64

/--
The nearest whole number is the one within one half of the quotient; at exactly
one half it is the even one.
-/
theorem roundedQuotient_eq
    {numerator denominator nearest : Nat}
    (positive : 0 < denominator)
    (low : 2 * (nearest * denominator) ≤ 2 * numerator + denominator)
    (high : 2 * numerator ≤ 2 * (nearest * denominator) + denominator)
    (strict :
      nearest % 2 = 1 →
        2 * (nearest * denominator) < 2 * numerator + denominator ∧
          2 * numerator < 2 * (nearest * denominator) + denominator) :
    roundedQuotient numerator denominator = nearest := by
  have division := Nat.div_add_mod numerator denominator
  have rest := Nat.mod_lt numerator positive
  unfold roundedQuotient
  generalize numerator / denominator = below at division
  generalize numerator % denominator = excess at division rest
  have product : denominator * below = below * denominator :=
    Nat.mul_comm ..
  have notFarAbove : nearest ≤ below + 1 := by
    by_contra far
    have gap : (below + 2) * denominator ≤ nearest * denominator :=
      Nat.mul_le_mul_right _ (by omega)
    have expanded : (below + 2) * denominator =
        below * denominator + 2 * denominator :=
      Nat.add_mul ..
    omega
  have notFarBelow : below ≤ nearest := by
    by_contra far
    have gap : (nearest + 1) * denominator ≤ below * denominator :=
      Nat.mul_le_mul_right _ (by omega)
    have expanded : (nearest + 1) * denominator =
        nearest * denominator + denominator :=
      Nat.succ_mul ..
    omega
  rcases Nat.eq_or_lt_of_le notFarBelow with same | above
  · subst same
    rw [if_pos]
    rcases Nat.mod_two_eq_zero_or_one below with even | odd
    · omega
    · have bounds := strict odd
      omega
  · have next : nearest = below + 1 := by
      omega
    subst next
    have expanded : (below + 1) * denominator =
        below * denominator + denominator :=
      Nat.succ_mul ..
    rw [if_neg]
    rcases Nat.mod_two_eq_zero_or_one below with even | odd
    · have bounds := strict (by omega)
      omega
    · omega

theorem ofParts_eq_finite
    (x : FiniteDouble) :
    ofParts x.negative x.significand x.shift = .finite x :=
  dif_pos x.canonical

end Binary64

namespace FiniteDouble

/-- Whether `numerator / denominator` units lie where rounding leads to the number. -/
def Covers (x : FiniteDouble) (numerator denominator : Nat) : Prop :=
  x.lowerHalfway * denominator ≤ 4 * numerator ∧
    4 * numerator ≤ x.upperHalfway * denominator ∧
    (x.significand % 2 = 1 →
      x.lowerHalfway * denominator < 4 * numerator ∧
        4 * numerator < x.upperHalfway * denominator)

/-- The lower halfway point is at most one half of the last place below. -/
theorem quarters_le_lowerHalfway
    (x : FiniteDouble) :
    x.quarters ≤ x.lowerHalfway + 2 * Nat.pow 2 x.shift := by
  unfold lowerHalfway
  split
  · omega
  · omega

/-- What a number covers is within one half of its last place. -/
theorem Covers.within
    {x : FiniteDouble}
    {numerator denominator : Nat}
    (covered : x.Covers numerator denominator) :
    2 * (x.significand * (denominator * Nat.pow 2 x.shift)) ≤
        2 * numerator + denominator * Nat.pow 2 x.shift ∧
      2 * numerator ≤
        2 * (x.significand * (denominator * Nat.pow 2 x.shift)) +
          denominator * Nat.pow 2 x.shift ∧
      (x.significand % 2 = 1 →
        2 * (x.significand * (denominator * Nat.pow 2 x.shift)) <
            2 * numerator + denominator * Nat.pow 2 x.shift ∧
          2 * numerator <
            2 * (x.significand * (denominator * Nat.pow 2 x.shift)) +
              denominator * Nat.pow 2 x.shift) := by
  obtain ⟨low, high, strict⟩ := covered
  have scaled :
      x.quarters * denominator =
        4 * (x.significand * (denominator * Nat.pow 2 x.shift)) := by
    unfold quarters units
    ring
  have below :
      x.quarters * denominator ≤
        x.lowerHalfway * denominator +
          2 * (denominator * Nat.pow 2 x.shift) := by
    have widened :=
      Nat.mul_le_mul_right denominator x.quarters_le_lowerHalfway
    linarith
  have above :
      x.upperHalfway * denominator =
        x.quarters * denominator +
          2 * (denominator * Nat.pow 2 x.shift) := by
    unfold upperHalfway
    ring
  refine ⟨by omega, by omega, ?_⟩
  intro odd
  have bounds := strict odd
  constructor
  · omega
  · omega

/-- A number covers nothing beyond the next power of two. -/
theorem Covers.quotient_lt
    {x : FiniteDouble}
    {numerator denominator : Nat}
    (positive : 0 < denominator)
    (covered : x.Covers numerator denominator) :
    numerator / denominator < Nat.pow 2 53 * Nat.pow 2 x.shift := by
  have high := covered.within.2.1
  have fits : x.significand + 1 ≤ Nat.pow 2 53 :=
    x.canonical.1
  have place : 0 < denominator * Nat.pow 2 x.shift :=
    Nat.mul_pos positive (Nat.pow_pos (by decide))
  have room :=
    Nat.mul_le_mul_right (denominator * Nat.pow 2 x.shift) fits
  rw [Nat.div_lt_iff_lt_mul positive]
  linarith

/-- Only a power of two covers quotients below itself that have fewer binary places. -/
theorem Covers.eq_power_of_quotient_lt
    {x : FiniteDouble}
    {numerator denominator : Nat}
    (positive : 0 < denominator)
    (covered : x.Covers numerator denominator)
    (shifted : x.shift ≠ 0)
    (below : numerator / denominator < Nat.pow 2 52 * Nat.pow 2 x.shift) :
    x.significand = Nat.pow 2 52 := by
  have least : Nat.pow 2 52 ≤ x.significand :=
    x.canonical.2.2.resolve_left shifted
  by_contra different
  have low := covered.within.1
  have greater : Nat.pow 2 52 + 1 ≤ x.significand := by
    omega
  have place : 0 < denominator * Nat.pow 2 x.shift :=
    Nat.mul_pos positive (Nat.pow_pos (by decide))
  have room :=
    Nat.mul_le_mul_right (denominator * Nat.pow 2 x.shift) greater
  rw [Nat.div_lt_iff_lt_mul positive] at below
  linarith

/-- Below a power of two the places are half as wide, and rounding carries. -/
theorem Covers.roundedQuotient_below
    {x : FiniteDouble}
    {numerator denominator shift : Nat}
    (positive : 0 < denominator)
    (covered : x.Covers numerator denominator)
    (shifted : x.shift = shift + 1)
    (power : x.significand = Nat.pow 2 52)
    (below : numerator / denominator < Nat.pow 2 52 * Nat.pow 2 x.shift) :
    numerator / denominator ≥ Nat.pow 2 52 * Nat.pow 2 shift ∧
      Binary64.roundedQuotient numerator (denominator * Nat.pow 2 shift) =
        Nat.pow 2 53 := by
  have low := covered.1
  have doubled : Nat.pow 2 x.shift = 2 * Nat.pow 2 shift := by
    rw [shifted]
    exact Nat.pow_succ'
  have halfway :
      x.lowerHalfway = (8 * Nat.pow 2 52 - 2) * Nat.pow 2 shift := by
    unfold lowerHalfway quarters units
    rw [if_pos ⟨power, by omega⟩, power, doubled, Nat.sub_mul]
    congr 1
    ring
  have place : 0 < denominator * Nat.pow 2 shift :=
    Nat.mul_pos positive (Nat.pow_pos (by decide))
  rw [halfway, Nat.mul_assoc, Nat.mul_comm (Nat.pow 2 shift)] at low
  rw [doubled, Nat.div_lt_iff_lt_mul positive] at below
  have constants : 8 * Nat.pow 2 52 - 2 = 36028797018963966 := by
    decide
  have half : Nat.pow 2 52 = 4503599627370496 := by
    decide
  have whole : Nat.pow 2 53 = 2 * Nat.pow 2 52 := by
    decide
  have rearranged :
      Nat.pow 2 52 * (2 * Nat.pow 2 shift) * denominator =
        Nat.pow 2 53 * (denominator * Nat.pow 2 shift) := by
    rw [whole]
    ring
  rw [rearranged] at below
  rw [constants] at low
  constructor
  · rw [ge_iff_le, Nat.le_div_iff_mul_le positive, Nat.mul_assoc,
      Nat.mul_comm (Nat.pow 2 shift), half]
    omega
  · rw [whole, half] at below ⊢
    apply Binary64.roundedQuotient_eq place
    · omega
    · omega
    · intro odd
      omega

/-- Rounding keeps the shift of a number when it counts in the number's last place. -/
theorem Covers.ofUnits_of_shift
    {x : FiniteDouble}
    {numerator denominator : Nat}
    (positive : 0 < denominator)
    (covered : x.Covers numerator denominator)
    (sameShift : (numerator / denominator).log2 - 52 = x.shift) :
    Binary64.ofUnits x.negative numerator denominator = .finite x := by
  have place : 0 < denominator * Nat.pow 2 x.shift :=
    Nat.mul_pos positive (Nat.pow_pos (by decide))
  obtain ⟨low, high, strict⟩ := covered.within
  have nearest :=
    Binary64.roundedQuotient_eq place low high strict
  unfold Binary64.ofUnits
  rw [sameShift]
  simp only [nearest]
  rw [if_neg (Nat.ne_of_lt x.canonical.1)]
  exact Binary64.ofParts_eq_finite x

theorem two_pow_mul_two_pow
    (places shift : Nat) :
    Nat.pow 2 places * Nat.pow 2 shift = 2 ^ (places + shift) :=
  (Nat.pow_add 2 places shift).symm

/-- A quotient between two neighbouring powers of two has one binary length. -/
theorem log2_eq_of_between
    {quotient places shift : Nat}
    (least : Nat.pow 2 places * Nat.pow 2 shift ≤ quotient)
    (below : quotient < Nat.pow 2 (places + 1) * Nat.pow 2 shift) :
    quotient.log2 = places + shift := by
  rw [two_pow_mul_two_pow] at least below
  have something : quotient ≠ 0 := by
    have power : 0 < 2 ^ (places + shift) :=
      Nat.pow_pos (by decide)
    omega
  have long := (Nat.le_log2 something).mpr least
  have short := (Nat.log2_lt something).mpr below
  omega

/-- Rounding leads from every quotient that a number covers to the number. -/
theorem ofUnits_eq_finite
    {x : FiniteDouble}
    {numerator denominator : Nat}
    (positive : 0 < denominator)
    (covered : x.Covers numerator denominator) :
    Binary64.ofUnits x.negative numerator denominator = .finite x := by
  have upper := covered.quotient_lt positive
  rcases Nat.eq_zero_or_pos x.shift with unshifted | shifted
  · apply covered.ofUnits_of_shift positive
    rw [unshifted] at upper ⊢
    by_cases nothing : numerator / denominator = 0
    · rw [nothing]
      decide
    · rw [two_pow_mul_two_pow] at upper
      have short := (Nat.log2_lt nothing).mpr upper
      omega
  · have nonzero : x.shift ≠ 0 := by
      omega
    by_cases least :
        Nat.pow 2 52 * Nat.pow 2 x.shift ≤ numerator / denominator
    · apply covered.ofUnits_of_shift positive
      have length := log2_eq_of_between least upper
      omega
    · have below :
          numerator / denominator < Nat.pow 2 52 * Nat.pow 2 x.shift := by
        omega
      have power :=
        covered.eq_power_of_quotient_lt positive nonzero below
      obtain ⟨shift, shiftEq⟩ : ∃ shift, x.shift = shift + 1 :=
        Nat.exists_eq_add_one.mpr shifted
      obtain ⟨lesser, carried⟩ :=
        covered.roundedQuotient_below positive shiftEq power below
      have widened :
          Nat.pow 2 52 * Nat.pow 2 x.shift =
            Nat.pow 2 53 * Nat.pow 2 shift := by
        rw [two_pow_mul_two_pow, two_pow_mul_two_pow, shiftEq]
        congr 1
        omega
      rw [widened] at below
      have length := log2_eq_of_between lesser below
      have sameShift : (numerator / denominator).log2 - 52 = shift := by
        omega
      unfold Binary64.ofUnits
      rw [sameShift]
      simp only [carried]
      rw [if_pos trivial, ← power, ← shiftEq]
      exact Binary64.ofParts_eq_finite x

end FiniteDouble

end ContractTemplates
