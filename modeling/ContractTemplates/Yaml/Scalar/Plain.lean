import ContractTemplates.Yaml.Cursor

namespace ContractTemplates.Yaml

/-!
# Plain scalars

A plain scalar is text without quotes. It ends at a colon before a gap, at a
comment, at a character that has a meaning inside brackets, or at a line that is
not indented far enough. A single line break inside it is read as a space, and
of several breaks all but the first are kept.
-/

/-- The number of characters up to the next gap or mark. -/
def plainRun (inFlow : Bool) : Text → Nat
  | [] => 0
  | c :: rest =>
      let next := rest.headD endMark
      let marksKey :=
        c = ':' && (isGap next || (inFlow && next ∈ ",[]\x7b\x7d".toList))
      if isGap c || marksKey || (inFlow && c ∈ ",?[]\x7b\x7d".toList) then
        0
      else
        plainRun inFlow rest + 1

/-- What lies between two runs of a plain scalar. -/
structure PlainGap where
  /-- The text that the gap contributes; none before the mark between documents. -/
  text : Text
  /-- The place after the gap. -/
  cursor : Cursor
  /-- Whether the gap contains a line break. -/
  crossesLine : Bool

/-- The line breaks up to the next character or document mark; none at such a mark. -/
def breaksAfter : Nat → Cursor → Option Text × Cursor
  | 0, cursor => (some [], cursor)
  | fuel + 1, cursor =>
      if cursor.seesSeparator then
        (none, cursor)
      else
        let next := cursor.skipSpaces
        match next.lineBreak with
        | ([], _) => (some [], next)
        | (text, later) =>
            let (breaks, stop) := breaksAfter fuel later
            (breaks.map (text ++ ·), stop)

/-- The gap that follows a run. -/
def plainGap (cursor : Cursor) : PlainGap :=
  let spaces := cursor.run (· = ' ')
  let afterSpaces := cursor.skipSpaces
  match afterSpaces.lineBreak with
  | ([], _) => ⟨spaces, afterSpaces, false⟩
  | (first, later) =>
      match breaksAfter (later.rest.length + 1) later with
      | (none, stop) => ⟨[], stop, true⟩
      | (some breaks, stop) =>
          if first ≠ ['\n'] then
            ⟨first ++ breaks, stop, true⟩
          else if breaks = [] then
            ⟨[' '], stop, true⟩
          else
            ⟨breaks, stop, true⟩

/-- A plain scalar that has been read. -/
structure PlainScalar where
  text : Text
  /-- The place after the scalar and the gap that follows it. -/
  cursor : Cursor
  /-- Whether the gap after the scalar contains a line break. -/
  endsLine : Bool

/-- Reads the runs of a plain scalar; `gap` is what precedes the next run. -/
def plainRuns (inFlow : Bool) (margin : Nat) :
    Nat → PlainGap → PlainScalar
  | 0, gap => ⟨[], gap.cursor, gap.crossesLine⟩
  | fuel + 1, gap =>
      let cursor := gap.cursor
      let length := plainRun inFlow cursor.rest
      if cursor.peek = '#' ∨ length = 0 then
        ⟨[], cursor, gap.crossesLine⟩
      else
        let text := gap.text ++ cursor.rest.take length
        let next := plainGap (cursor.advance length)
        if next.text = [] ∨ next.cursor.peek = '#' ∨
            (¬ inFlow ∧ next.cursor.column < margin) then
          ⟨text, next.cursor, next.crossesLine⟩
        else
          let later := plainRuns inFlow margin fuel next
          { later with text := text ++ later.text }

/-- Reads a plain scalar whose further lines begin at column `margin` or later. -/
def readPlain (inFlow : Bool) (margin : Nat) (cursor : Cursor) : PlainScalar :=
  plainRuns inFlow margin (cursor.rest.length + 1) ⟨[], cursor, false⟩

end ContractTemplates.Yaml
