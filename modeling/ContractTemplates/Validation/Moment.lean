import ContractTemplates.Validation.Scalar

namespace ContractTemplates.Validation

/-!
# Checks of points in time

A point in time may be given as such, as a day, as text, or as a timestamp: a
number of seconds since the start of 1970 in universal time. A number that is
too large for seconds counts milliseconds. Text holds a day with or without a
time, or a numeral of a timestamp.
-/

/-- The days from the first day of year 1 to the first day of 1970. -/
def epochDay : Nat :=
  719162

/-- The largest count that is taken for seconds; a larger one counts milliseconds. -/
def secondsLimit : Nat :=
  20000000000

/-- The point that lies a count and some microseconds after the start of 1970. -/
def timestamp? (count : Int) (microseconds : Nat) : Option DateTime :=
  let unit : Int := if count.natAbs ≤ secondsLimit then 1000000 else 1000
  let epoch : Int := (epochDay * 86400 * 1000000 : Nat)
  DateTime.ofMicroseconds? (epoch + count * unit + microseconds) (some 0)

/-- Why there is no point in time for a count. -/
def timestampComplaint (negative : Bool) : Text :=
  if negative then
    "dates before 0000 are not supported as unix timestamps".toList
  else
    "dates after 9999 are not supported as unix timestamps".toList

/-- The point in time for an integer. -/
def integerTimestamp (count : Int) : Checked DateTime :=
  match timestamp? count 0 with
  | some point => .ok point
  | none => Checked.fail (.timestampUnclear (timestampComplaint (count < 0)))

/-- The microseconds in the fraction of a double, to the nearest. -/
def fractionMicroseconds (value : FiniteDouble) : Nat :=
  match Binary64.ofUnits false (value.units % Binary64.unitsPerOne * 1000000) 1 with
  | .finite product => (2 * product.units + Binary64.unitsPerOne) /
      (2 * Binary64.unitsPerOne)
  | _ => 0

/-- The point in time for a double: its whole part below and its fraction. -/
def doubleTimestamp : Binary64 → Checked DateTime
  | .notANumber =>
      Checked.fail (.timestampUnclear "NaN values not permitted".toList)
  | .infinite negative =>
      Checked.fail (.timestampUnclear (timestampComplaint negative))
  | .finite value =>
      match timestamp? (value.signedUnits / Binary64.unitsPerOne)
          (fractionMicroseconds value) with
      | some point => .ok point
      | none =>
          Checked.fail (.timestampUnclear (timestampComplaint value.negative))

/-- The count that a text of digits with a sign writes, in 64 bits. -/
def writtenCount? (numeral : Text) : Option Int := do
  let (negative, digits) := Numeral.unsigned numeral
  let magnitude ← Text.toNat? digits
  let count : Int := if negative then -magnitude else magnitude
  if fitsWord count then
    some count
  else
    none

/-- The point in time that a numeral with a point writes. -/
def writtenFraction? (numeral : Text) : Option DateTime := do
  let (negative, magnitude) := Numeral.unsigned numeral
  let (whole, fraction) := Text.cut '.' magnitude
  let fraction ← fraction
  if whole = [] ∨ ¬ (whole ++ fraction).all Char.isDigit then
    none
  else
    let digits := Nat.ofDigitChars 10 (whole ++ fraction) 0
    match Binary64.ofDecimal negative digits (-(fraction.length : Int)) with
    | .finite value =>
        timestamp? (value.signedUnits / Binary64.unitsPerOne)
          (if negative then 0 else fractionMicroseconds value)
    | _ => none

/-- What keeps bytes from being the text of a day. -/
def dayComplaint (bytes : Bytes) : Text :=
  let text := bytes.map fun byte => Char.ofNat byte.toNat
  let digitsAt (start count : Nat) : Bool :=
    ((text.drop start).take count).all Char.isDigit
  let month := Nat.ofDigitChars 10 ((text.drop 5).take 2) 0
  if text.length < 10 then
    "input is too short".toList
  else if ¬ digitsAt 0 4 then
    "invalid character in year".toList
  else if text[4]? ≠ some '-' then
    "invalid date separator, expected `-`".toList
  else if ¬ digitsAt 5 2 then
    "invalid character in month".toList
  else if text[7]? ≠ some '-' then
    "invalid date separator, expected `-`".toList
  else if ¬ digitsAt 8 2 then
    "invalid character in day".toList
  else if month = 0 ∨ 12 < month then
    "month value is outside expected range of 1-12".toList
  else if (Date.ofShape? (text.take 10)).isNone then
    "day value is outside expected range".toList
  else
    "unexpected extra characters at the end of the input".toList

/-- A point in time from text: a date with or without a time, or a timestamp. -/
def dateTimeText (text : Text) : Checked DateTime :=
  let count := writtenCount? text
  let found :=
    (DateTime.read? text).or
      ((count.bind fun count => timestamp? count 0).or
        ((writtenFraction? text).or
          ((Date.ofShape? text).map fun date => ⟨date, .midnight, none⟩)))
  match found, count with
  | some point, _ => .ok point
  | none, some count =>
      Checked.fail (.dateTimeUnclear (timestampComplaint (count < 0)))
  | none, none => Checked.fail (.dateTimeUnclear (dayComplaint text.utf8))

/-- A point in time; a date alone means its first instant. -/
def dateTime : Datum → Checked DateTime
  | .dateTime value => .ok value
  | .date value => .ok ⟨value, .midnight, none⟩
  | .number (.integer value) =>
      if fitsWord value || hasDouble value then
        integerTimestamp value
      else
        Checked.fail .notDateTime
  | .number (.double value) => doubleTimestamp value
  | .string value => do
      let text ← whole value
      dateTimeText text
  | .bytes value =>
      match Text.ofUtf8? value with
      | some text => dateTimeText text
      | none => Checked.fail (.dateTimeUnclear (dayComplaint value))
  | _ => Checked.fail .notDateTime

end ContractTemplates.Validation
