import ContractTemplates.Text.Utf8
import ContractTemplates.Yaml.Cursor
import ContractTemplates.Yaml.Error

namespace ContractTemplates.Yaml

/-!
# Anchors, tags and directives

An anchor names a node and a reference repeats the node of that name. A tag says
what a node means; it is written in full or as a handle with a suffix, and a
directive before a document may declare what a handle stands for.
-/

/-- A tag as it is written. -/
structure TagName where
  /-- The handle, or nothing if the tag is written in full. -/
  handle : Option Text
  suffix : Text
  deriving DecidableEq, Repr

/-- A line that gives instructions for the document after it. -/
inductive Directive where
  | version (major : Nat)
  | handle (handle meaning : Text)
  | other
  deriving DecidableEq, Repr

/-- Reads the name of an anchor or of a reference, after its mark. -/
def readAnchor (cursor : Cursor) : Except Error (Text × Cursor) :=
  let name := cursor.run isNameCharacter
  let stop := cursor.skip isNameCharacter
  let next := stop.peek
  if name = [] ∨ ¬ (isGap next ∨ next ∈ "?:,]\x7d%@\x60".toList) then
    .error .badToken
  else
    .ok (name, stop)

/-- A character that may stand in a tag, apart from escapes. -/
def isTagCharacter (c : Char) : Bool :=
  c.isAlphanum || c ∈ "-;/?:@&=+$,_.!~*'()[]".toList

/-- Reads bytes that are each written as a percent sign and two digits. -/
def readOctets : Nat → Cursor → Except Error (Bytes × Cursor)
  | 0, cursor => .ok ([], cursor)
  | fuel + 1, cursor =>
      if cursor.peek = '%' then
        match Text.hexValue? (cursor.ahead 1), Text.hexValue? (cursor.ahead 2) with
        | some high, some low => do
            let (bytes, stop) ← readOctets fuel (cursor.advance 3)
            .ok (UInt8.ofNat (high * 16 + low) :: bytes, stop)
        | _, _ => .error .badToken
      else
        .ok ([], cursor)

/-- Reads the runs of characters and escapes of a tag. -/
def tagRuns : Nat → Cursor → Except Error (Text × Cursor)
  | 0, cursor => .ok ([], cursor)
  | fuel + 1, cursor => do
      let run := cursor.run isTagCharacter
      let next := cursor.skip isTagCharacter
      if next.peek = '%' then
        let (bytes, afterBytes) ← readOctets (next.rest.length + 1) next
        match Text.ofUtf8? bytes with
        | some text =>
            let (later, stop) ← tagRuns fuel afterBytes
            .ok (run ++ text ++ later, stop)
        | none => .error .badToken
      else
        .ok (run, next)

/-- Reads the text of a tag, which is not empty. -/
def readTagText (cursor : Cursor) : Except Error (Text × Cursor) := do
  let (text, stop) ← tagRuns (cursor.rest.length + 1) cursor
  if text = [] then
    .error .badToken
  else
    .ok (text, stop)

/-- Reads a handle: one mark, or a name between two marks. -/
def readHandle (cursor : Cursor) : Except Error (Text × Cursor) :=
  if cursor.peek ≠ '!' then
    .error .badToken
  else if cursor.ahead 1 = ' ' then
    .ok (['!'], cursor.forward)
  else
    let name := cursor.forward.run isNameCharacter
    let stop := cursor.forward.skip isNameCharacter
    if stop.peek = '!' then
      .ok ('!' :: name ++ ['!'], stop.forward)
    else
      .error .badToken

/-- Reads a tag, from its mark. -/
def readTag (cursor : Cursor) : Except Error (TagName × Cursor) := do
  let next := cursor.ahead 1
  let (tag, stop) ←
    if next = '<' then do
      let (text, stop) ← readTagText (cursor.advance 2)
      if stop.peek = '>' then
        pure (TagName.mk none text, stop.forward)
      else
        throw .badToken
    else if isGap next then
      pure (TagName.mk none ['!'], cursor.forward)
    else do
      let word := cursor.forward.run (!endsWord ·)
      let (handle, afterHandle) ←
        if '!' ∈ word then
          readHandle cursor
        else
          pure (['!'], cursor.forward)
      let (suffix, stop) ← readTagText afterHandle
      pure (TagName.mk (some handle) suffix, stop)
  if endsWord stop.peek then
    .ok (tag, stop)
  else
    .error .badToken

/-- Reads a number of a version. -/
def readVersionNumber (cursor : Cursor) : Except Error (Nat × Cursor) :=
  let digits := cursor.run Char.isDigit
  if digits = [] then
    .error .badToken
  else if 4300 < digits.length then
    .error .badValue
  else
    .ok (Nat.ofDigitChars 10 digits 0, cursor.skip Char.isDigit)

/-- Reads a version, two numbers parted by a point. -/
def readVersion (cursor : Cursor) : Except Error (Directive × Cursor) := do
  let (major, afterMajor) ← readVersionNumber cursor.skipSpaces
  if afterMajor.peek ≠ '.' then
    .error .badToken
  else
    let (_, stop) ← readVersionNumber afterMajor.forward
    if endsWord stop.peek then
      .ok (.version major, stop)
    else
      .error .badToken

/-- Reads a handle and what it stands for. -/
def readHandleMeaning (cursor : Cursor) : Except Error (Directive × Cursor) := do
  let (handle, afterHandle) ← readHandle cursor.skipSpaces
  if afterHandle.peek ≠ ' ' then
    .error .badToken
  else
    let (meaning, stop) ← readTagText afterHandle.skipSpaces
    if endsWord stop.peek then
      .ok (.handle handle meaning, stop)
    else
      .error .badToken

/-- Reads a directive, from its mark to the end of its line. -/
def readDirective (cursor : Cursor) : Except Error (Directive × Cursor) := do
  let name := cursor.forward.run isNameCharacter
  let afterName := cursor.forward.skip isNameCharacter
  if name = [] ∨ ¬ endsWord afterName.peek then
    .error .badToken
  else
    let (directive, afterValue) ←
      if name = "YAML".toList then
        readVersion afterName
      else if name = "TAG".toList then
        readHandleMeaning afterName
      else
        pure (Directive.other, afterName.skip (!endsLine ·))
    let stop := afterValue.skipSpaces.skipComment
    if endsLine stop.peek then
      .ok (directive, stop.lineBreak.2)
    else
      .error .badToken

end ContractTemplates.Yaml
