import ContractTemplates.Text.Raw
import ContractTemplates.Yaml.Cursor
import ContractTemplates.Yaml.Error

namespace ContractTemplates.Yaml

/-!
# Quoted scalars

Between single quotes a quote is written twice and nothing else is special.
Between double quotes a backslash begins an escape. In both, blanks around a
line break are dropped, a single break is read as a space, and of several breaks
all but the first are kept. An escape may spell half a character; two of them in a
row stay two halves.
-/

/-- A space or a tab. -/
def isInlineBlank (c : Char) : Bool :=
  c = ' ' || c = '\t'

/-- The character for the letter after a backslash. -/
def simpleEscape? : Char → Option Char
  | '0' => some endMark
  | 'a' => some '\x07'
  | 'b' => some '\x08'
  | 't' => some '\t'
  | '\t' => some '\t'
  | 'n' => some '\n'
  | 'v' => some '\x0b'
  | 'f' => some '\x0c'
  | 'r' => some '\r'
  | 'e' => some '\x1b'
  | ' ' => some ' '
  | '"' => some '"'
  | '\\' => some '\\'
  | '/' => some '/'
  | 'N' => some '\x85'
  | '_' => some '\xa0'
  | 'L' => some '\u2028'
  | 'P' => some '\u2029'
  | _ => none

/-- The number of hexadecimal digits after the letter of a numeric escape. -/
def escapeDigits? : Char → Option Nat
  | 'x' => some 2
  | 'u' => some 4
  | 'U' => some 8
  | _ => none

/-- The code point of a number, if there is one. -/
def codePointOf (code : Nat) : Except Error CodePoint :=
  if 0x80000000 ≤ code then
    .error .tooLarge
  else if 0x110000 ≤ code then
    .error .badValue
  else
    .ok (.ofCode code)

/-- The value of hexadecimal digits. -/
def hexCode? (digits : Text) : Option Nat :=
  (digits.mapM Text.hexValue?).map fun values =>
    values.foldl (fun code value => code * 16 + value) 0

/-- The line breaks that follow, with blanks between them dropped. -/
def quotedBreaks : Nat → Cursor → Except Error (Text × Cursor)
  | 0, cursor => .ok ([], cursor)
  | fuel + 1, cursor =>
      if cursor.seesSeparator then
        .error .badToken
      else
        let next := cursor.skip isInlineBlank
        match next.lineBreak with
        | ([], _) => .ok ([], next)
        | (text, later) => do
            let (breaks, stop) ← quotedBreaks fuel later
            .ok (text ++ breaks, stop)

/-- The blanks that follow, or what the line breaks among them contribute. -/
def quotedGap (cursor : Cursor) : Except Error (Text × Cursor) :=
  let blanks := cursor.run isInlineBlank
  let next := cursor.skip isInlineBlank
  match next.lineBreak with
  | ([], _) => .ok (blanks, next)
  | (first, later) => do
      let (breaks, stop) ← quotedBreaks (later.rest.length + 1) later
      if first ≠ ['\n'] then
        .ok (first ++ breaks, stop)
      else if breaks = [] then
        .ok ([' '], stop)
      else
        .ok (breaks, stop)

/-- Reads what follows a backslash. -/
def readEscape (cursor : Cursor) : Except Error (RawText × Cursor) :=
  let letter := cursor.peek
  match simpleEscape? letter, escapeDigits? letter with
  | some c, _ => .ok ([.char c], cursor.forward)
  | none, some length =>
      let digits := cursor.forward.rest.take length
      match hexCode? digits with
      | some code =>
          if digits.length = length then do
            let point ← codePointOf code
            .ok ([point], cursor.advance (length + 1))
          else
            .error .badToken
      | none => .error .badToken
  | none, none =>
      match cursor.lineBreak with
      | ([], _) => .error .badToken
      | (_, later) => do
          let (breaks, stop) ← quotedBreaks (later.rest.length + 1) later
          .ok (breaks.raw, stop)

/-- Reads up to the closing quote; returns the string and the place after the quote. -/
def quotedText (quote : Char) : Nat → Cursor → Except Error (RawText × Cursor)
  | 0, _ => .error .badToken
  | fuel + 1, cursor =>
      let c := cursor.peek
      if cursor.rest.isEmpty then
        .error .badToken
      else if c = quote then
        if quote = '\'' ∧ cursor.ahead 1 = '\'' then do
          let (text, stop) ← quotedText quote fuel (cursor.advance 2)
          .ok (.char '\'' :: text, stop)
        else
          .ok ([], cursor.forward)
      else do
        let (piece, next) ←
          if isGap c then do
            let (gap, afterGap) ← quotedGap cursor
            .ok (gap.raw, afterGap)
          else if c = '\\' ∧ quote = '"' then
            readEscape cursor.forward
          else
            .ok ([.char c], cursor.forward)
        let (text, stop) ← quotedText quote fuel next
        .ok (piece ++ text, stop)

/-- Reads a quoted scalar, from its opening quote. -/
def readQuoted (cursor : Cursor) : Except Error (RawText × Cursor) :=
  quotedText cursor.peek (cursor.rest.length + 1) cursor.forward

end ContractTemplates.Yaml
