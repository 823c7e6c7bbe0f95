import ContractTemplates.Yaml.Cursor
import ContractTemplates.Yaml.Error

namespace ContractTemplates.Yaml

/-!
# Block scalars

A block scalar is the indented text below a `|` or a `>`. After `|` its lines
stay as they are; after `>` a single break between two lines that begin with
text is read as a space. A sign decides about the breaks at the end: without one
the last break stays, after `-` none and after `+` all. A digit gives the
indentation, which otherwise is that of the first line with text.
-/

/-- The marks after the character that begins a block scalar. -/
structure BlockHeader where
  /-- Whether all breaks at the end are kept, or none; by default one is. -/
  keepsBreaks : Option Bool
  /-- How far the text is indented beyond its surroundings. -/
  indentation : Option Nat

/-- A digit from one to nine. -/
def indentationDigit? (c : Char) : Except Error (Option Nat) :=
  if c.isDigit then
    if c = '0' then
      .error .badToken
    else
      .ok (some (c.toNat - '0'.toNat))
  else
    .ok none

/-- The choice that a sign makes about the breaks at the end. -/
def breaksSign? (c : Char) : Option Bool :=
  if c = '+' then
    some true
  else if c = '-' then
    some false
  else
    none

/-- The place after what there is. -/
def forwardIf (present : Bool) (cursor : Cursor) : Cursor :=
  if present then
    cursor.forward
  else
    cursor

/-- Reads the marks, which may stand in either order. -/
def readBlockHeader (cursor : Cursor) : Except Error (BlockHeader × Cursor) := do
  let firstSign := breaksSign? cursor.peek
  let afterFirst := forwardIf firstSign.isSome cursor
  let digit ← indentationDigit? afterFirst.peek
  let afterDigit := forwardIf digit.isSome afterFirst
  let secondSign :=
    if firstSign.isSome then none else breaksSign? afterDigit.peek
  let stop := forwardIf secondSign.isSome afterDigit
  if endsWord stop.peek then
    .ok (⟨firstSign.or secondSign, digit⟩, stop)
  else
    .error .badToken

/-- The place after the rest of a line that holds nothing but blanks and a comment. -/
def restOfLine (cursor : Cursor) : Except Error Cursor :=
  let next := cursor.skipSpaces.skipComment
  if endsLine next.peek then
    .ok next.lineBreak.2
  else
    .error .badToken

/-- The breaks of leading blank lines, and the largest column that spaces reach. -/
def leadingBreaks (widest : Nat) : Nat → Cursor → Text × Nat × Cursor
  | 0, cursor => ([], widest, cursor)
  | fuel + 1, cursor =>
      let next := cursor.skipSpaces
      let reached := max widest next.column
      match next.lineBreak with
      | ([], _) => ([], reached, next)
      | (text, later) =>
          let (breaks, found, stop) := leadingBreaks reached fuel later
          (text ++ breaks, found, stop)

/-- The place after spaces, as far as the column of the text. -/
def indentTo (column : Nat) (cursor : Cursor) : Cursor :=
  cursor.advance (min (cursor.run (· = ' ')).length (column - cursor.column))

/-- The breaks of blank lines within the text. -/
def innerBreaks (column : Nat) : Nat → Cursor → Text × Cursor
  | 0, cursor => ([], cursor)
  | fuel + 1, cursor =>
      let next := indentTo column cursor
      match next.lineBreak with
      | ([], _) => ([], next)
      | (text, later) =>
          let (breaks, stop) := innerBreaks column fuel later
          (text ++ breaks, stop)

/-- A character that keeps the break before its line. -/
def beginsBlank (cursor : Cursor) : Bool :=
  cursor.peek = ' ' || cursor.peek = '\t'

/--
Reads the lines of the text, the first of which follows the given breaks.
Returns the text up to the last line, its break, the breaks after it and the
place where the text ends.
-/
def blockLines (folded : Bool) (column : Nat) :
    Nat → (pending : Text) → (breaks : Text) → Cursor →
      Text × Text × Text × Cursor
  | 0, pending, breaks, cursor => ([], pending, breaks, cursor)
  | fuel + 1, pending, breaks, cursor =>
      if cursor.column = column ∧ ¬ cursor.rest.isEmpty then
        let line := cursor.run (!endsLine ·)
        let (lineBreak, later) := (cursor.skip (!endsLine ·)).lineBreak
        let (nextBreaks, next) :=
          innerBreaks column (later.rest.length + 1) later
        let continues := next.column = column ∧ ¬ next.rest.isEmpty
        let joint :=
          if ¬ continues then
            []
          else if folded ∧ lineBreak = ['\n'] ∧
              ¬ beginsBlank cursor ∧ ¬ beginsBlank next then
            if nextBreaks = [] then [' '] else []
          else
            lineBreak
        let (text, last, final, stop) :=
          blockLines folded column fuel lineBreak nextBreaks next
        (breaks ++ line ++ joint ++ text, last, final, stop)
      else
        ([], pending, breaks, cursor)

/-- Reads a block scalar, from the character that begins it. -/
def readBlock (margin : Nat) (cursor : Cursor) : Except Error (Text × Cursor) := do
  let folded := cursor.peek = '>'
  let (header, afterHeader) ← readBlockHeader cursor.forward
  let start ← restOfLine afterHeader
  let least := max 1 margin
  let fuel := start.rest.length + 1
  let (column, breaks, first) :=
    match header.indentation with
    | some indentation =>
        let column := least + indentation - 1
        let (breaks, first) := innerBreaks column fuel start
        (column, breaks, first)
    | none =>
        let (breaks, widest, first) := leadingBreaks 0 fuel start
        (max least widest, breaks, first)
  let (text, last, final, stop) :=
    blockLines folded column fuel [] breaks first
  let ending :=
    match header.keepsBreaks with
    | none => last
    | some true => last ++ final
    | some false => []
  .ok (text ++ ending, stop)

end ContractTemplates.Yaml
