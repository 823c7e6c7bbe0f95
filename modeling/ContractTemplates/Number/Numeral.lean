import ContractTemplates.Number.Shortest
import ContractTemplates.Text.Blank
import ContractTemplates.Text.Digit

namespace ContractTemplates

/-!
# Numbers and their numerals

A `Number` is an integer of any size or a double, and the two stay apart: a
whole double is not an integer. Numerals are read with spaces around them
ignored, with an optional sign, with digits of any script and with single
underscores between digits. Integers have at most `Numeral.digitLimit` digits.
-/

/-- An integer of any size or a double. -/
inductive Number where
  | integer (value : Int)
  | double (value : Binary64)
  deriving DecidableEq, Repr

namespace Number

/-- The shortest exact text of a number; a whole double is written as an integer. -/
def text : Number → Text
  | integer value => Text.ofInt value
  | double (.finite value) =>
      if value.isInteger then
        Text.ofInt value.toInt
      else
        (Binary64.finite value).text
  | double value => value.text

/-- Whether two numbers are equal as numbers, whichever way they are held. -/
def same : Number → Number → Bool
  | integer a, integer b => a = b
  | integer a, double b => b.equalsInt a
  | double a, integer b => a.equalsInt b
  | double a, double b => a.sameNumber b

end Number

namespace Numeral

/-- The most digits that an integer may be read from. -/
def digitLimit : Nat :=
  4300

/-- Splits off a leading sign; the flag says whether it is a minus. -/
def unsigned : Text → Bool × Text
  | '-' :: rest => (true, rest)
  | '+' :: rest => (false, rest)
  | text => (false, text)

/-- The digits of a run in which single underscores may stand between two digits. -/
def grouped? (accepts : Char → Bool) : Text → Option Text
  | [] => none
  | [c] => if accepts c then some [c] else none
  | c :: '_' :: rest =>
      if accepts c then
        (grouped? accepts rest).map (c :: ·)
      else
        none
  | c :: d :: rest =>
      if accepts c then
        (grouped? accepts (d :: rest)).map (c :: ·)
      else
        none

/-- The letter that may mark a numeral of the base after a leading zero. -/
def baseLetter? : Nat → Option Char
  | 2 => some 'b'
  | 8 => some 'o'
  | 16 => some 'x'
  | _ => none

/-- A numeral of the base without the zero and letter that mark the base. -/
def unmarked (base : Nat) (text : Text) : Text :=
  match text with
  | '0' :: letter :: rest =>
      if baseLetter? base = some letter.toLower then
        match rest with
        | '_' :: digits => digits
        | _ => rest
      else
        text
  | _ => text

/-- The value of a run of digits of the base. -/
def valueOf (base : Nat) (digits : Text) : Nat :=
  digits.foldl
    (fun value c => base * value + ((Text.digitValue? c).getD 0)) 0

/-- Reads an integer numeral of a base. -/
def integer? (base : Nat) (text : Text) : Option Int := do
  let (negative, body) :=
    unsigned ((text.trimmed Text.isSpace).map Text.asciiDigit)
  let digits ←
    grouped?
      (fun c => (Text.digitValue? c).any (· < base)) (unmarked base body)
  if base = 10 ∧ digitLimit < digits.length then
    none
  else
    let magnitude : Int := valueOf base digits
    some (if negative then -magnitude else magnitude)

/--
A text without its underscores, each of which has to stand between two digits.

The flag says whether the character before was a digit.
-/
def ungrouped? (afterDigit : Bool) : Text → Option Text
  | [] => some []
  | '_' :: rest =>
      match rest with
      | d :: _ =>
          if afterDigit && d.isDigit then
            ungrouped? false rest
          else
            none
      | [] => none
  | c :: rest => (ungrouped? c.isDigit rest).map (c :: ·)

/-- The exponent part of a decimal numeral: nothing, or `e` and an integer. -/
def exponent? : Text → Option Int
  | [] => some 0
  | mark :: rest =>
      if mark = 'e' ∨ mark = 'E' then
        let (negative, digits) := unsigned rest
        (Text.toNat? digits).map fun (magnitude : Nat) =>
          if negative then -(magnitude : Int) else magnitude
      else
        none

/-- Reads an unsigned decimal numeral with an optional fraction and exponent. -/
def magnitude? (negative : Bool) (text : Text) : Option Binary64 := do
  let (whole, afterWhole) := text.spanDigits
  let (fraction, afterFraction) :=
    match afterWhole with
    | '.' :: rest => Text.spanDigits rest
    | _ => ([], afterWhole)
  let digits := whole ++ fraction
  if digits = [] then
    none
  else
    let exponent ← exponent? afterFraction
    some
      (Binary64.ofDecimal negative (Nat.ofDigitChars 10 digits 0)
        (exponent - fraction.length))

/-- Reads a decimal numeral of ASCII characters, or the name of a non-finite double. -/
def plainDouble? (text : Text) : Option Binary64 :=
  let (negative, body) := unsigned text
  let name := body.map Char.toLower
  if name = "inf".toList ∨ name = "infinity".toList then
    some (.infinite negative)
  else if name = "nan".toList then
    some .notANumber
  else
    magnitude? negative body

/-- Reads a double. -/
def double? (text : Text) : Option Binary64 := do
  let plain ←
    ungrouped? false ((text.trimmed Text.isSpace).map Text.asciiDigit)
  plainDouble? plain

/-- Reads a number: an integer if the text is one, a double otherwise. -/
def number? (text : Text) : Option Number :=
  match integer? 10 text with
  | some value => some (.integer value)
  | none => (double? text).map .double

end Numeral

end ContractTemplates
