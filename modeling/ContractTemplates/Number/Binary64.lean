import ContractTemplates.Text.Basic

namespace ContractTemplates

/-!
# Double-precision numbers

Every finite double is a whole multiple of `2 ^ (-1074)`. A finite number is
therefore a sign and a count of these units, held as `significand * 2 ^ shift`
in the one canonical way. All arithmetic is exact arithmetic on natural numbers
followed by one rounding to the nearest double, ties going to the even
significand, so nothing depends on machine floating point.
-/

/-- The one way in which a count of units is written as significand and shift. -/
def Binary64.Canonical (significand shift : Nat) : Prop :=
  significand < Nat.pow 2 53 ∧ shift ≤ 2045 ∧
    (shift = 0 ∨ Nat.pow 2 52 ≤ significand)

instance (significand shift : Nat) :
    Decidable (Binary64.Canonical significand shift) :=
  inferInstanceAs (Decidable (_ ∧ _ ∧ _))

/-- How many units make one. -/
def Binary64.unitsPerOne : Nat :=
  Nat.pow 2 1074

/-- A finite double: `significand * 2 ^ shift` units, with a sign. -/
structure FiniteDouble where
  negative : Bool
  significand : Nat
  shift : Nat
  canonical : Binary64.Canonical significand shift
  deriving DecidableEq, Repr

/-- A double-precision number; all payloads of not-a-number are one value. -/
inductive Binary64 where
  | finite (value : FiniteDouble)
  | infinite (negative : Bool)
  | notANumber
  deriving DecidableEq, Repr

namespace FiniteDouble

/-- How many units of `2 ^ (-1074)` lie between zero and the number. -/
def units (x : FiniteDouble) : Nat :=
  x.significand * Nat.pow 2 x.shift

/-- The number of units, negative for negative numbers. -/
def signedUnits (x : FiniteDouble) : Int :=
  if x.negative then
    -(x.units : Int)
  else
    x.units

/-- Whether the number is a whole number. -/
def isInteger (x : FiniteDouble) : Bool :=
  x.units % Binary64.unitsPerOne = 0

/-- The integer part, cut off toward zero. -/
def toInt (x : FiniteDouble) : Int :=
  let magnitude : Int := (x.units / Binary64.unitsPerOne : Nat)
  if x.negative then
    -magnitude
  else
    magnitude

end FiniteDouble

namespace Binary64

/-- Zero with a sign. -/
def zero (negative : Bool) : Binary64 :=
  .finite ⟨negative, 0, 0, by decide⟩

/-- The double with these parts; parts that no double can hold overflow. -/
def ofParts (negative : Bool) (significand shift : Nat) : Binary64 :=
  if canonical : Canonical significand shift then
    .finite ⟨negative, significand, shift, canonical⟩
  else
    .infinite negative

/-- The whole number nearest to a quotient, the even one of two nearest. -/
def roundedQuotient (numerator denominator : Nat) : Nat :=
  let below := numerator / denominator
  let excess := 2 * (numerator % denominator)
  if excess < denominator ∨ (excess = denominator ∧ below % 2 = 0) then
    below
  else
    below + 1

/-- The double nearest to `numerator / denominator` units. -/
def ofUnits (negative : Bool) (numerator denominator : Nat) : Binary64 :=
  let shift := (numerator / denominator).log2 - 52
  let significand := roundedQuotient numerator (denominator * Nat.pow 2 shift)
  if significand = Nat.pow 2 53 then
    ofParts negative (Nat.pow 2 52) (shift + 1)
  else
    ofParts negative significand shift

/-- The double nearest to `numerator / denominator`. -/
def ofRatio (negative : Bool) (numerator denominator : Nat) : Binary64 :=
  ofUnits negative (numerator * unitsPerOne) denominator

/--
The double nearest to `digits * 10 ^ exponent`.

Numbers of more than four hundred places before or after the point are beyond
every double, so their powers of ten are never formed.
-/
def ofDecimal (negative : Bool) (digits : Nat) (exponent : Int) : Binary64 :=
  let places := (Nat.toDigits 10 digits).length + exponent
  if digits = 0 ∨ places < -400 then
    zero negative
  else if 400 < places then
    .infinite negative
  else if exponent < 0 then
    ofRatio negative digits (Nat.pow 10 exponent.natAbs)
  else
    ofRatio negative (digits * Nat.pow 10 exponent.natAbs) 1

/-- The double nearest to an integer. -/
def ofInt (n : Int) : Binary64 :=
  ofRatio (n < 0) n.natAbs 1

/-- Whether the number is finite and whole. -/
def isInteger : Binary64 → Bool
  | finite x => x.isInteger
  | _ => false

/-- The number with the opposite sign. -/
def neg : Binary64 → Binary64
  | finite x => finite { x with negative := !x.negative }
  | infinite negative => infinite (!negative)
  | notANumber => notANumber

/-- The exact sum, rounded; a sum of zero is negative only for two negative zeros. -/
def add : Binary64 → Binary64 → Binary64
  | finite x, finite y =>
      let sum := x.signedUnits + y.signedUnits
      if sum = 0 then
        zero (x.negative && y.negative)
      else
        ofUnits (sum < 0) sum.natAbs 1
  | infinite s, infinite t => if s = t then infinite s else notANumber
  | infinite s, finite _ => infinite s
  | finite _, infinite t => infinite t
  | notANumber, _ => notANumber
  | _, notANumber => notANumber

/-- The exact product, rounded; zero times infinity is not a number. -/
def mul : Binary64 → Binary64 → Binary64
  | finite x, finite y =>
      ofUnits (x.negative != y.negative) (x.units * y.units) unitsPerOne
  | infinite s, infinite t => infinite (s != t)
  | infinite s, finite y =>
      if y.units = 0 then notANumber else infinite (s != y.negative)
  | finite x, infinite t =>
      if x.units = 0 then notANumber else infinite (x.negative != t)
  | notANumber, _ => notANumber
  | _, notANumber => notANumber

/-- Whether a double and an integer are the same number. -/
def equalsInt : Binary64 → Int → Bool
  | finite x, n => x.signedUnits = n * unitsPerOne
  | _, _ => false

/-- Whether two doubles are the same number; the two zeros are. -/
def sameNumber : Binary64 → Binary64 → Bool
  | finite x, finite y => x.signedUnits = y.signedUnits
  | infinite s, infinite t => s = t
  | _, _ => false

end Binary64

end ContractTemplates
