import ContractTemplates.Datum
import ContractTemplates.Text.Utf8
import ContractTemplates.Validation.Issue

namespace ContractTemplates.Validation

/-!
# Checks of single values

Each check accepts the values of its own kind and, beyond them, those that can
be read as such without doubt: bytes in UTF-8 as text, zero and one and a few
words as truth values, whole doubles and numerals as integers, and numerals as
doubles. A string is taken as it is where any string will do. Where its characters
matter, one with halves of characters is refused.
-/

/-- The text of a string without halves. -/
def whole (value : RawText) : Checked Text :=
  match value.text? with
  | some text => .ok text
  | none => Checked.fail .textNotUtf8

/-- The text in a string or in bytes; other data hold no text. -/
def spelled (broken : Flaw) : Datum → Checked (Option Text)
  | .string value => (whole value).map some
  | .bytes value =>
      match Text.ofUtf8? value with
      | some text => .ok (some text)
      | none => Checked.fail broken
  | _ => .ok none

/-- A string of any kind. -/
def text : Datum → Checked RawText
  | .string value => .ok value
  | .bytes value =>
      match Text.ofUtf8? value with
      | some text => .ok text.raw
      | none => Checked.fail .textNotUtf8
  | _ => Checked.fail .notText

/-- A string of any kind, or nothing for null. -/
def optionalText : Datum → Checked (Option RawText)
  | .null => .ok none
  | datum => (text datum).map some

/-- A text of at most `limit` characters. -/
def shortText (limit : Nat) (datum : Datum) : Checked Text := do
  let value ← whole (← text datum)
  if limit < value.length then
    Checked.fail (.textTooLong limit)
  else
    .ok value

/-- Whether a text is a name: one or more ASCII letters, digits or underscores. -/
def isName (value : Text) : Bool :=
  !value.isEmpty && value.all Text.isWordCharacter

/-- A name of at most `limit` characters. -/
def name (limit : Nat) (datum : Datum) : Checked Text := do
  let value ← shortText limit datum
  if isName value then
    .ok value
  else
    Checked.fail .textNotName

/-- The words that mean true. -/
def affirmations : List Text :=
  ["1", "t", "true", "on", "y", "yes"].map String.toList

/-- The words that mean false. -/
def denials : List Text :=
  ["0", "f", "false", "off", "n", "no"].map String.toList

/-- The truth value of a word, capitals or not. -/
def booleanWord (word : Text) : Checked Bool :=
  let lowered := word.map Text.foldAscii
  if lowered ∈ affirmations then
    .ok true
  else if lowered ∈ denials then
    .ok false
  else
    Checked.fail .booleanUnclear

/-- The truth value of zero or one. -/
def booleanInteger (value : Int) : Checked Bool :=
  if value = 0 then
    .ok false
  else if value = 1 then
    .ok true
  else
    Checked.fail .booleanUnclear

/-- The first integer that needs more than 64 bits with its sign. -/
def wordLimit : Int :=
  9223372036854775808

/-- Whether an integer has 64 bits with its sign. -/
def fitsWord (value : Int) : Bool :=
  -wordLimit ≤ value && value < wordLimit

/-- Whether an integer has a nearest double. -/
def hasDouble (value : Int) : Bool :=
  match Binary64.ofInt value with
  | .finite _ => true
  | _ => false

/-- The integer that a finite, whole double is; none beyond 64 bits. -/
def wholeDouble : Binary64 → Checked Int
  | .finite value =>
      if !value.isInteger then
        Checked.fail .integerFraction
      else if -wordLimit < value.toInt ∧ value.toInt < wordLimit then
        .ok value.toInt
      else
        Checked.fail .integerTooLarge
  | _ => Checked.fail .notFinite

/-- A truth value. -/
def boolean (datum : Datum) : Checked Bool := do
  match datum with
  | .boolean value => .ok value
  | .number (.integer value) =>
      if fitsWord value || hasDouble value then
        booleanInteger value
      else
        Checked.fail .notBoolean
  | .number (.double value) =>
      match wholeDouble value with
      | .ok whole => booleanInteger whole
      | .error _ => Checked.fail .notBoolean
  | _ =>
      match ← spelled .booleanUnclear datum with
      | some word => booleanWord word
      | none => Checked.fail .notBoolean

/-- The digits of a plain numeral: no sign but a minus and no zero in front of others. -/
def plainInteger? (numeral : Text) : Option Int :=
  let (negative, digits) :=
    match numeral with
    | '-' :: rest => (true, rest)
    | _ => (false, numeral)
  if digits = [] ∨ ¬ digits.all Char.isDigit ∨
      (digits.head? = some '0' ∧ digits ≠ ['0']) ∨
      Numeral.digitLimit < digits.length then
    none
  else
    let magnitude : Int := (Nat.ofDigitChars 10 digits 0 : Nat)
    some (if negative then -magnitude else magnitude)

/-- Whether a text begins with a plain numeral of too many digits. -/
def beginsTooLong (numeral : Text) : Bool :=
  let digits := ((Text.after? ['-'] numeral).getD numeral).takeWhile Char.isDigit
  digits.head? ≠ some '0' && Numeral.digitLimit < digits.length

/--
The rest of a numeral without further leading zeros and underscores between
them; `previous` is the last of the zeros before, which stays if there is
nothing else or if a point follows.
-/
def afterLeadingZeros? (previous : Char) : Text → Option Text
  | [] => some [previous]
  | c :: rest =>
      if c = '0' ∨ c = '_' then
        afterLeadingZeros? c rest
      else if c.isDigit then
        some (c :: rest)
      else if c = '.' then
        some (previous :: c :: rest)
      else
        none

/-- A numeral without a point that is followed by zeros alone. -/
def withoutDecimalZeros (numeral : Text) : Text :=
  match Text.cut '.' numeral with
  | (whole, some zeros) =>
      if !zeros.isEmpty && zeros.all (· = '0') then
        whole
      else
        numeral
  | (_, none) => numeral

/-- Whether every underscore of a text stands alone and inside. -/
def underscoresInside (numeral : Text) : Bool :=
  numeral.head? ≠ some '_' && numeral.getLast? ≠ some '_' &&
    !Text.contains ['_', '_'] numeral

/-- A numeral without its underscores, if they stand alone and inside. -/
def withoutUnderscores (numeral : Text) : Text :=
  if underscoresInside numeral then
    numeral.filter (· ≠ '_')
  else
    numeral

/--
Reads an integer from a numeral that may have spaces around it, a plus sign,
leading zeros, single underscores, and a point followed by zeros.
-/
def relaxedInteger? (numeral : Text) : Option Int := do
  let trimmed := numeral.trimmed Text.isSpace
  let body := (Text.after? ['+'] trimmed).getD trimmed
  let significant ←
    match body with
    | '-' :: _ => if trimmed = body then some body else none
    | '0' :: rest => afterLeadingZeros? '0' rest
    | c :: _ => if c.isDigit then some body else none
    | [] => none
  plainInteger? (withoutUnderscores (withoutDecimalZeros significant))

/-- The integer that a numeral writes. -/
def integerNumeral (numeral : Text) : Checked Int :=
  if beginsTooLong numeral then
    Checked.fail .integerTooLarge
  else
    match (plainInteger? numeral).or (relaxedInteger? numeral) with
    | some value => .ok value
    | none => Checked.fail .integerUnclear

/-- An integer. -/
def integer (datum : Datum) : Checked Int := do
  match datum with
  | .boolean value => .ok (if value then 1 else 0)
  | .number (.integer value) => .ok value
  | .number (.double value) => wholeDouble value
  | _ =>
      match ← spelled .integerUnclear datum with
      | some numeral => integerNumeral numeral
      | none => Checked.fail .notInteger

/-- An integer that is not negative. -/
def naturalInteger (datum : Datum) : Checked Int := do
  let value ← integer datum
  if value < 0 then
    Checked.fail .belowZero
  else
    .ok value

/-- The double that a numeral writes. -/
def doubleNumeral (numeral : Text) : Checked Binary64 :=
  let plain := Numeral.plainDouble? (numeral.trimmed Text.isSpace)
  let grouped :=
    if '_' ∈ numeral ∧ underscoresInside numeral then
      Numeral.plainDouble? (numeral.filter (· ≠ '_'))
    else
      none
  match plain.or grouped with
  | some value => .ok value
  | none => Checked.fail .numberUnclear

/-- A double. -/
def double (datum : Datum) : Checked Binary64 := do
  match datum with
  | .number (.double value) => .ok value
  | .number (.integer value) =>
      if hasDouble value then
        .ok (Binary64.ofInt value)
      else
        Checked.fail .notNumber
  | _ =>
      match ← spelled .numberUnclear datum with
      | some numeral => doubleNumeral numeral
      | none => Checked.fail .notNumber

/-- A text is taken as it is where its characters matter. -/
@[simp]
theorem whole_raw
    (text : Text) :
    whole text.raw = .ok text := by
  simp [whole]

end ContractTemplates.Validation
