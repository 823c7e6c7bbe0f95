import ContractTemplates.Number.Binary64

namespace ContractTemplates

/-!
# Decimal forms of doubles

`FiniteDouble.shortest` finds the fewest significant digits whose decimal reads
back as the number, and among those the decimal nearest to it. A decimal reads
back if it lies between the two points halfway to the neighbouring doubles,
where the halfway points themselves count for an even significand.

`FiniteDouble.toPlaces` rounds to a given number of significant digits instead.
A `DecimalLayout` then says how a decimal is written down: which exponents stay
positional and whether a whole number keeps its point.
-/

/-- The number `digits * 10 ^ exponent`. -/
structure Decimal where
  digits : Nat
  exponent : Int
  deriving DecidableEq, Repr

namespace FiniteDouble

/-- One quarter of a unit, the grain in which halfway points are whole. -/
def quarters (x : FiniteDouble) : Nat :=
  4 * x.units

/-- The denominator that turns quarters of units into the number itself. -/
def quarterScale : Nat :=
  4 * Binary64.unitsPerOne

/-- The lower halfway point in quarters; the gap below a power of two is half as wide. -/
def lowerHalfway (x : FiniteDouble) : Nat :=
  if x.significand = Nat.pow 2 52 ∧ x.shift ≠ 0 then
    x.quarters - Nat.pow 2 x.shift
  else
    x.quarters - 2 * Nat.pow 2 x.shift

/-- The upper halfway point in quarters. -/
def upperHalfway (x : FiniteDouble) : Nat :=
  x.quarters + 2 * Nat.pow 2 x.shift

/-- The exponent of ten of the first significant digit of `numerator / denominator`. -/
def leadingExponent (numerator denominator : Nat) : Int :=
  if denominator ≤ numerator then
    ((Nat.toDigits 10 (numerator / denominator)).length : Int) - 1
  else
    -((Nat.toDigits 10 ((denominator - 1) / numerator)).length : Int)

/-- Multiplies by a power of ten, on the side of the fraction that keeps it whole. -/
def scaled (value : Nat) (exponent : Int) : Nat :=
  if exponent < 0 then
    value * Nat.pow 10 exponent.natAbs
  else
    value

/-- Whether `point * 10 ^ exponent` reads back as the number. -/
def readsBack (x : FiniteDouble) (point : Nat) (exponent : Int) : Bool :=
  let scale := scaled quarterScale (-exponent)
  let value := point * scale
  let low := scaled x.lowerHalfway exponent
  let high := scaled x.upperHalfway exponent
  if x.significand % 2 = 0 then
    low ≤ value && value ≤ high
  else
    low < value && value < high

/-- The nearest point of a decimal grid that reads back as the number, if any does. -/
def gridPoint? (x : FiniteDouble) (exponent : Int) : Option Decimal :=
  let numerator := scaled x.quarters exponent
  let denominator := scaled quarterScale (-exponent)
  let below := numerator / denominator
  let nearest := Binary64.roundedQuotient numerator denominator
  let further := if nearest = below then below + 1 else below
  if x.readsBack nearest exponent then
    some ⟨nearest, exponent⟩
  else if x.readsBack further exponent then
    some ⟨further, exponent⟩
  else
    none

/-- The decimal with the fewest digits that reads back as the number. -/
def shortest (x : FiniteDouble) : Decimal :=
  let leading := leadingExponent x.quarters quarterScale
  match (List.range 17).findSome?
      (fun (more : Nat) => x.gridPoint? (leading - more)) with
  | some decimal => decimal
  | none => ⟨0, 0⟩

/-- The nearest decimal of `places` significant digits, the even one of two nearest. -/
def toPlaces (x : FiniteDouble) (places : Nat) : Decimal :=
  let exponent := leadingExponent x.quarters quarterScale + 1 - places
  ⟨Binary64.roundedQuotient
      (scaled x.quarters exponent) (scaled quarterScale (-exponent)),
    exponent⟩

end FiniteDouble

/-- How decimals are written down. -/
structure DecimalLayout where
  /-- The least exponent of the first digit that is written positionally. -/
  positionalFrom : Int
  /-- The least exponent of the first digit beyond that range. -/
  positionalBelow : Int
  /-- Whether a whole number written positionally ends in a point and a zero. -/
  keepsPoint : Bool

namespace DecimalLayout

/-- The significant digits of a decimal without trailing zeros. -/
def significant (digits : Nat) : Text :=
  ((Nat.toDigits 10 digits).reverse.dropWhile (· = '0')).reverse

/-- An exponent with its sign and at least two digits. -/
def exponentText (exponent : Int) : Text :=
  'e' :: (if exponent < 0 then '-' else '+') ::
    Text.padded 2 exponent.natAbs

/-- Writes a decimal other than zero. -/
def write (layout : DecimalLayout) (decimal : Decimal) : Text :=
  let all := Nat.toDigits 10 decimal.digits
  let digits := significant decimal.digits
  let leading := decimal.exponent + all.length - 1
  if layout.positionalFrom ≤ leading ∧ leading < layout.positionalBelow then
    if leading < 0 then
      '0' :: '.' :: List.replicate (leading.natAbs - 1) '0' ++ digits
    else
      let whole := leading.natAbs + 1
      let padding := List.replicate (whole - digits.length) '0'
      let fraction := digits.drop whole
      if fraction ≠ [] then
        digits.take whole ++ '.' :: fraction
      else if layout.keepsPoint then
        digits ++ padding ++ ['.', '0']
      else
        digits ++ padding
  else
    match digits with
    | [] => []
    | [digit] => digit :: exponentText leading
    | digit :: rest => digit :: '.' :: rest ++ exponentText leading

/-- Exponents from -4 to 15 are positional, and a whole number shows its point. -/
def exact : DecimalLayout :=
  ⟨-4, 16, true⟩

/-- Exponents from -4 to 5 are positional, and a whole number shows no point. -/
def brief : DecimalLayout :=
  ⟨-4, 6, false⟩

end DecimalLayout

namespace Binary64

/-- A sign in front of the text of a magnitude. -/
def signed (negative : Bool) (magnitude : Text) : Text :=
  if negative then
    '-' :: magnitude
  else
    magnitude

/-- The shortest text that reads back as the number. -/
def text : Binary64 → Text
  | finite x =>
      signed x.negative
        (if x.units = 0 then
          ['0', '.', '0']
        else
          DecimalLayout.exact.write x.shortest)
  | infinite negative => signed negative ['i', 'n', 'f']
  | notANumber => ['n', 'a', 'n']

/-- The number rounded to six significant digits, for messages. -/
def briefText : Binary64 → Text
  | finite x =>
      signed x.negative
        (if x.units = 0 then
          ['0']
        else
          DecimalLayout.brief.write (x.toPlaces 6))
  | infinite negative => signed negative ['i', 'n', 'f']
  | notANumber => ['n', 'a', 'n']

end Binary64

end ContractTemplates
