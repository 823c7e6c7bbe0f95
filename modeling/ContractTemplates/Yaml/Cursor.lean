import ContractTemplates.Text.Digit

namespace ContractTemplates.Yaml

/-!
# Places in a document

A `Cursor` is a place in a text: what follows it, how many characters precede
it, and the line and column it is in. No document contains the character NUL,
which therefore stands for the end of the text wherever the next character is
asked for.
-/

/-- The character that stands for the end of a text. -/
def endMark : Char :=
  Char.ofNat 0

/-- A character that may end a line. -/
def isBreak (c : Char) : Bool :=
  c = '\n' || c = '\r' || c = '\x85' || c = '\u2028' || c = '\u2029'

/-- The end of a line or of the text. -/
def endsLine (c : Char) : Bool :=
  isBreak c || c = endMark

/-- A space, or the end of a line or of the text. -/
def endsWord (c : Char) : Bool :=
  endsLine c || c = ' '

/-- A space, a tab, or the end of a line or of the text. -/
def isGap (c : Char) : Bool :=
  endsWord c || c = '\t'

/-- A letter, a digit, a minus or an underscore, as in anchors and handles. -/
def isNameCharacter (c : Char) : Bool :=
  Text.isWordCharacter c || c = '-'

/-- A place in a text. -/
structure Cursor where
  /-- The text that follows. -/
  rest : Text
  /-- The number of characters before. -/
  index : Nat
  /-- The number of lines before. -/
  line : Nat
  /-- The number of characters before in the line. -/
  column : Nat
  deriving Repr

namespace Cursor

/-- The start of a text. -/
def start (text : Text) : Cursor :=
  ⟨text, 0, 0, 0⟩

/-- The next character. -/
def peek (cursor : Cursor) : Char :=
  cursor.rest.headD endMark

/-- The character `count` places further on. -/
def ahead (count : Nat) (cursor : Cursor) : Char :=
  cursor.rest.getD count endMark

/--
The place after the next character. A carriage return before a line feed does
not end the line, and a byte order mark takes no column.
-/
def forward (cursor : Cursor) : Cursor :=
  match cursor.rest with
  | [] => cursor
  | c :: rest =>
      if isBreak c ∧ ¬ (c = '\r' ∧ rest.head? = some '\n') then
        ⟨rest, cursor.index + 1, cursor.line + 1, 0⟩
      else if c = '\uFEFF' then
        ⟨rest, cursor.index + 1, cursor.line, cursor.column⟩
      else
        ⟨rest, cursor.index + 1, cursor.line, cursor.column + 1⟩

/-- The place after `count` characters. -/
def advance : Nat → Cursor → Cursor
  | 0, cursor => cursor
  | count + 1, cursor => advance count cursor.forward

/-- The run of characters of a class that follows. -/
def run (accepts : Char → Bool) (cursor : Cursor) : Text :=
  cursor.rest.takeWhile accepts

/-- The place after the run of characters of a class. -/
def skip (accepts : Char → Bool) (cursor : Cursor) : Cursor :=
  cursor.advance (cursor.run accepts).length

/-- The place after spaces. -/
def skipSpaces (cursor : Cursor) : Cursor :=
  cursor.skip (· = ' ')

/-- The place after a comment, if one follows. -/
def skipComment (cursor : Cursor) : Cursor :=
  if cursor.peek = '#' then
    cursor.skip (!endsLine ·)
  else
    cursor

/--
The line break that follows and the place after it. The two separators of
Unicode stand for themselves, and every other break for a line feed.
-/
def lineBreak (cursor : Cursor) : Text × Cursor :=
  match cursor.rest with
  | '\r' :: '\n' :: _ => (['\n'], cursor.advance 2)
  | c :: _ =>
      if c = '\u2028' ∨ c = '\u2029' then
        ([c], cursor.forward)
      else if isBreak c then
        (['\n'], cursor.forward)
      else
        ([], cursor)
  | [] => ([], cursor)

/-- Whether the text follows. -/
def sees (text : Text) (cursor : Cursor) : Bool :=
  text.isPrefixOf cursor.rest

/-- Whether a line of three marks follows, with nothing attached. -/
def seesMarks (marks : Text) (cursor : Cursor) : Bool :=
  cursor.sees marks && isGap (cursor.ahead 3)

/-- Whether the mark between two documents follows. -/
def seesSeparator (cursor : Cursor) : Bool :=
  cursor.seesMarks "---".toList || cursor.seesMarks "...".toList

end Cursor

end ContractTemplates.Yaml
