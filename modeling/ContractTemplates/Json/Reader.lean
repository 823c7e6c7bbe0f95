import ContractTemplates.Entries
import ContractTemplates.Json.Basic

namespace ContractTemplates.Json

/-!
# Reading JSON

The reader takes JSON text with the three words `NaN`, `Infinity` and
`-Infinity` as further numbers. A numeral with a point or an exponent is a
double and any other an integer. Of members with the same name the last counts,
at the place of the first. Control characters may not stand between quotes. A
character may be spelled by its units; a half that is spelled alone is kept.

The depth of recursion is bounded by a number computed from the text, which
`read` hides.
-/

/-- Why a text is no JSON value. -/
inductive Error where
  /-- The text does not follow the grammar. -/
  | malformed
  /-- An integer has more digits than may be read. -/
  | tooManyDigits
  deriving DecidableEq, Repr

/-- The blanks that may stand between the parts of a value. -/
def isGap (c : Char) : Bool :=
  c = ' ' || c = '\t' || c = '\n' || c = '\r'

/-- The text after leading blanks. -/
def skipGap (text : Text) : Text :=
  text.dropWhile isGap

/-- The value of four hexadecimal digits. -/
def fourHex? (a b c d : Char) : Option Nat := do
  let a ← Text.hexValue? a
  let b ← Text.hexValue? b
  let c ← Text.hexValue? c
  let d ← Text.hexValue? d
  some (((a * 16 + b) * 16 + c) * 16 + d)

/-- The character for the letter after a backslash. -/
def simpleEscape? : Char → Option Char
  | '"' => some '"'
  | '\\' => some '\\'
  | '/' => some '/'
  | 'b' => some (Char.ofNat 8)
  | 'f' => some (Char.ofNat 12)
  | 'n' => some '\n'
  | 'r' => some '\r'
  | 't' => some '\t'
  | _ => none

/-- Reads codes up to the closing quote; returns them and what follows the quote. -/
def readCodes : Text → Except Error (List Nat × Text)
  | [] => .error .malformed
  | '"' :: rest => .ok ([], rest)
  | '\\' :: 'u' :: a :: b :: c :: d :: rest =>
      match fourHex? a b c d with
      | some code => do
          let (codes, later) ← readCodes rest
          .ok (code :: codes, later)
      | none => .error .malformed
  | '\\' :: letter :: rest =>
      match simpleEscape? letter with
      | some c => do
          let (codes, later) ← readCodes rest
          .ok (c.toNat :: codes, later)
      | none => .error .malformed
  | c :: rest =>
      if c = '\\' ∨ c.toNat < 0x20 then
        .error .malformed
      else do
        let (codes, later) ← readCodes rest
        .ok (c.toNat :: codes, later)

/-- Reads a string up to the closing quote; returns it and what follows the quote. -/
def readQuoted (text : Text) : Except Error (RawText × Text) := do
  let (codes, later) ← readCodes text
  .ok (RawText.ofUnits codes, later)

/-- The digits before a fraction or an exponent: a zero alone, or a run of digits. -/
def wholePart (text : Text) : Text × Text :=
  match text with
  | '0' :: rest => (['0'], rest)
  | _ => text.spanDigits

/-- The digits of a fraction after a point, if there are any. -/
def fractionDigits : Text → Option (Text × Text)
  | '.' :: rest =>
      match Text.spanDigits rest with
      | ([], _) => none
      | (digits, later) => some (digits, later)
  | _ => none

/-- The exponent after its mark, if there is one. -/
def exponentPart : Text → Option (Int × Text)
  | mark :: rest =>
      if mark = 'e' ∨ mark = 'E' then
        let (negative, body) := Numeral.unsigned rest
        match Text.spanDigits body with
        | ([], _) => none
        | (digits, later) =>
            let magnitude : Int := (Nat.ofDigitChars 10 digits 0 : Nat)
            some (if negative then -magnitude else magnitude, later)
      else
        none
  | [] => none

/-- Reads a numeral without its sign. -/
def readMagnitude (negative : Bool) (text : Text) :
    Except Error (Number × Text) :=
  let (whole, afterWhole) := wholePart text
  if whole = [] then
    .error .malformed
  else
    let fraction := fractionDigits afterWhole
    let afterFraction := (fraction.map Prod.snd).getD afterWhole
    let exponent := exponentPart afterFraction
    match fraction, exponent with
    | none, none =>
        if Numeral.digitLimit < whole.length then
          .error .tooManyDigits
        else
          let magnitude : Int := (Nat.ofDigitChars 10 whole 0 : Nat)
          .ok
            (.integer (if negative then -magnitude else magnitude), afterWhole)
    | _, _ =>
        let places := (fraction.map Prod.fst).getD []
        .ok
          (.double
            (Binary64.ofDecimal negative
              (Nat.ofDigitChars 10 (whole ++ places) 0)
              ((exponent.map Prod.fst).getD 0 - places.length)),
            (exponent.map Prod.snd).getD afterFraction)

/-- Reads a numeral. -/
def readNumber (text : Text) : Except Error (Number × Text) :=
  match text with
  | '-' :: rest => readMagnitude true rest
  | _ => readMagnitude false text

/-- The values that are words. -/
def words : List (Text × Json) := [
  ("null".toList, .null),
  ("true".toList, .boolean true),
  ("false".toList, .boolean false),
  ("NaN".toList, .number (.double .notANumber)),
  ("Infinity".toList, .number (.double (.infinite false))),
  ("-Infinity".toList, .number (.double (.infinite true)))]

/-- The word that a text begins with, and the text after it. -/
def readWord? (text : Text) : Option (Json × Text) :=
  words.findSome? fun word =>
    (Text.after? word.1 text).map fun rest => (word.2, rest)

mutual

/-- Reads a value that begins at the first character. -/
def readValue : Nat → Text → Except Error (Json × Text)
  | 0, _ => .error .malformed
  | fuel + 1, text =>
      match text with
      | '"' :: rest => do
          let (value, later) ← readQuoted rest
          .ok (.string value, later)
      | '[' :: rest =>
          match skipGap rest with
          | ']' :: later => .ok (.array [], later)
          | items => do
              let (values, later) ← readItems fuel items
              .ok (.array values, later)
      | '{' :: rest =>
          match skipGap rest with
          | '}' :: later => .ok (.object [], later)
          | members => do
              let (entries, later) ← readMembers fuel members
              .ok (.object (Entries.collect entries), later)
      | _ =>
          match readWord? text with
          | some found => .ok found
          | none => do
              let (value, later) ← readNumber text
              .ok (.number value, later)

/-- Reads at least one item and the bracket after the last. -/
def readItems : Nat → Text → Except Error (List Json × Text)
  | 0, _ => .error .malformed
  | fuel + 1, text => do
      let (value, afterValue) ← readValue fuel text
      match skipGap afterValue with
      | ']' :: later => .ok ([value], later)
      | ',' :: rest =>
          let (values, later) ← readItems fuel (skipGap rest)
          .ok (value :: values, later)
      | _ => .error .malformed

/-- Reads at least one member and the brace after the last. -/
def readMembers : Nat → Text → Except Error (List (RawText × Json) × Text)
  | 0, _ => .error .malformed
  | fuel + 1, text =>
      match text with
      | '"' :: rest => do
          let (name, afterName) ← readQuoted rest
          match skipGap afterName with
          | ':' :: afterColon =>
              let (value, afterValue) ← readValue fuel (skipGap afterColon)
              match skipGap afterValue with
              | '}' :: later => .ok ([(name, value)], later)
              | ',' :: more =>
                  let (entries, later) ← readMembers fuel (skipGap more)
                  .ok ((name, value) :: entries, later)
              | _ => .error .malformed
          | _ => .error .malformed
      | _ => .error .malformed

end

/-- Reads a text that holds one value and nothing else but blanks. -/
def read (text : Text) : Except Error Json := do
  let (value, rest) ← readValue (2 * text.length + 2) (skipGap text)
  if (skipGap rest).isEmpty then
    .ok value
  else
    .error .malformed

end ContractTemplates.Json
