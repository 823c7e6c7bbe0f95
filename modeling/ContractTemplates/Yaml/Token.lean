import ContractTemplates.Yaml.Property
import ContractTemplates.Yaml.Scalar.Block
import ContractTemplates.Yaml.Scalar.Plain
import ContractTemplates.Yaml.Scalar.Quoted

namespace ContractTemplates.Yaml

/-!
# Tokens

A document is a sequence of tokens, in which indentation is made explicit: a
block begins with a token of its own and ends with `blockEnd`. A key may be
recognised only at the colon after it, so the lexer remembers where a key could
begin and puts the token for the key there afterwards. Such a key stays on one
line and within 1024 characters.
-/

/-- A token of a document. -/
inductive Token where
  | directive (directive : Directive)
  | documentStart
  | documentEnd
  | blockSequenceStart
  | blockMappingStart
  | blockEnd
  | flowSequenceStart
  | flowSequenceEnd
  | flowMappingStart
  | flowMappingEnd
  | blockEntry
  | flowEntry
  | key
  | value
  | alias (name : Text)
  | anchor (name : Text)
  | tag (tag : TagName)
  | scalar (plain : Bool) (text : RawText)
  deriving DecidableEq, Repr

/-- A place where a key may begin. -/
structure KeyCandidate where
  /-- The number of tokens before the key. -/
  position : Nat
  /-- Whether anything but a key is an error here. -/
  required : Bool
  index : Nat
  line : Nat
  column : Nat

/-- The most characters between the start of a key and its colon. -/
def keyLimit : Nat :=
  1024

/-- The place in the document and what the lexer knows about its surroundings. -/
structure Lexer where
  cursor : Cursor
  /-- The tokens so far, the last one first. -/
  emitted : List Token
  /-- The least column of what is inside the innermost block; zero outside all blocks. -/
  margin : Nat
  /-- The margins of the blocks around the innermost one. -/
  margins : List Nat
  /-- Whether a key may begin at the next token. -/
  keyAllowed : Bool
  /-- The place where a key may have begun, within the innermost brackets. -/
  candidate : Option KeyCandidate
  /-- The same for the brackets around the innermost ones, and outside of all. -/
  outer : List (Option KeyCandidate)

namespace Lexer

/-- The lexer at the start of a text. -/
def start (text : Text) : Lexer where
  cursor := Cursor.start text
  emitted := []
  margin := 0
  margins := []
  keyAllowed := true
  candidate := none
  outer := []

/-- Whether the place is inside brackets. -/
def inFlow (lexer : Lexer) : Bool :=
  !lexer.outer.isEmpty

/-- Adds a token at the end. -/
def emit (token : Token) (lexer : Lexer) : Lexer :=
  { lexer with emitted := token :: lexer.emitted }

/-- Moves to another place. -/
def moveTo (cursor : Cursor) (lexer : Lexer) : Lexer :=
  { lexer with cursor }

/-- Adds a token of one character. -/
def emitMark (token : Token) (lexer : Lexer) : Lexer :=
  (lexer.emit token).moveTo lexer.cursor.forward

/-- Allows or forbids that a key begins at the next token. -/
def allowKey (allowed : Bool) (lexer : Lexer) : Lexer :=
  { lexer with keyAllowed := allowed }

/-- Gives up the place where a key may have begun. -/
def dropCandidate (lexer : Lexer) : Except Error Lexer :=
  if lexer.candidate.any (·.required) then
    .error .badToken
  else
    .ok { lexer with candidate := none }

/-- Remembers that a key may begin here. -/
def saveCandidate (lexer : Lexer) : Except Error Lexer :=
  if lexer.keyAllowed then do
    let cursor := lexer.cursor
    let cleared ← lexer.dropCandidate
    .ok { cleared with
      candidate := some {
        position := lexer.emitted.length
        required := !lexer.inFlow && lexer.margin = cursor.column + 1
        index := cursor.index
        line := cursor.line
        column := cursor.column } }
  else
    .ok lexer

/-- A place from which a key can no longer reach its colon is given up. -/
def refresh? (cursor : Cursor) (candidate : Option KeyCandidate) :
    Except Error (Option KeyCandidate) :=
  match candidate with
  | none => .ok none
  | some found =>
      if found.line ≠ cursor.line ∨ keyLimit < cursor.index - found.index then
        if found.required then
          .error .badToken
        else
          .ok none
      else
        .ok (some found)

/-- Gives up all places from which a key can no longer reach its colon. -/
def refresh (lexer : Lexer) : Except Error Lexer := do
  let candidate ← refresh? lexer.cursor lexer.candidate
  let outer ← lexer.outer.mapM (refresh? lexer.cursor)
  .ok { lexer with candidate, outer }

/-- Closes the blocks whose content begins beyond `margin`. -/
def closeBlocks (margin : Nat) : (margins : List Nat) → Lexer → Lexer
  | margins, lexer =>
      if margin < lexer.margin then
        match margins with
        | [] => lexer
        | outer :: rest =>
            closeBlocks margin rest
              { lexer.emit .blockEnd with margin := outer, margins := rest }
      else
        lexer

/-- Closes the blocks that do not reach to `margin`, unless inside brackets. -/
def unwind (margin : Nat) (lexer : Lexer) : Lexer :=
  if lexer.inFlow then
    lexer
  else
    closeBlocks margin lexer.margins lexer

/-- Opens a block at a column; nothing happens if it is open already. -/
def openBlock (column : Nat) (lexer : Lexer) : Bool × Lexer :=
  if lexer.margin ≤ column then
    (true, { lexer with
      margin := column + 1
      margins := lexer.margin :: lexer.margins })
  else
    (false, lexer)

/-- Opens a block at the place itself, with its token. -/
def openHere (token : Token) (lexer : Lexer) : Lexer :=
  match lexer.openBlock lexer.cursor.column with
  | (true, opened) => opened.emit token
  | (false, same) => same

/-- Moves over blanks, comments and line breaks to the next token. -/
def toNextToken : Nat → Lexer → Lexer
  | 0, lexer => lexer
  | fuel + 1, lexer =>
      let next := lexer.cursor.skipSpaces.skipComment
      match next.lineBreak with
      | ([], _) => lexer.moveTo next
      | (_, later) =>
          toNextToken fuel
            ((lexer.moveTo later).allowKey (lexer.keyAllowed || !lexer.inFlow))

/-- Reads a directive. -/
def directive (lexer : Lexer) : Except Error Lexer := do
  let cleared ← (lexer.unwind 0).dropCandidate
  let (directive, stop) ← readDirective cleared.cursor
  .ok (((cleared.allowKey false).emit (.directive directive)).moveTo stop)

/-- Reads a mark between documents. -/
def documentMark (token : Token) (lexer : Lexer) : Except Error Lexer := do
  let cleared ← (lexer.unwind 0).dropCandidate
  .ok (((cleared.allowKey false).emit token).moveTo (cleared.cursor.advance 3))

/-- Reads an opening bracket. -/
def openFlow (token : Token) (lexer : Lexer) : Except Error Lexer := do
  let saved ← lexer.saveCandidate
  .ok ({ saved with
    candidate := none
    outer := saved.candidate :: saved.outer
    keyAllowed := true }.emitMark token)

/-- Reads a closing bracket. -/
def closeFlow (token : Token) (lexer : Lexer) : Except Error Lexer := do
  let cleared ← lexer.dropCandidate
  match cleared.outer with
  | [] => .error .badToken
  | candidate :: outer =>
      .ok ({ cleared with candidate, outer, keyAllowed := false }.emitMark token)

/-- Reads a comma inside brackets. -/
def flowEntry (lexer : Lexer) : Except Error Lexer := do
  let cleared ← (lexer.allowKey true).dropCandidate
  .ok (cleared.emitMark .flowEntry)

/-- Reads the dash before an item. -/
def blockEntry (lexer : Lexer) : Except Error Lexer := do
  if !lexer.inFlow && !lexer.keyAllowed then
    .error .badToken
  else
    let opened :=
      if lexer.inFlow then lexer else lexer.openHere .blockSequenceStart
    let cleared ← (opened.allowKey true).dropCandidate
    .ok (cleared.emitMark .blockEntry)

/-- Reads the question mark before a key. -/
def explicitKey (lexer : Lexer) : Except Error Lexer := do
  if !lexer.inFlow && !lexer.keyAllowed then
    .error .badToken
  else
    let opened :=
      if lexer.inFlow then lexer else lexer.openHere .blockMappingStart
    let cleared ← (opened.allowKey (!lexer.inFlow)).dropCandidate
    .ok (cleared.emitMark .key)

/-- Puts tokens in front of the token at a position. -/
def insertAt (position : Nat) (tokens : List Token) (lexer : Lexer) : Lexer :=
  let later := lexer.emitted.length - position
  { lexer with
    emitted :=
      lexer.emitted.take later ++ tokens ++ lexer.emitted.drop later }

/-- Reads the colon before a value; a key may have begun earlier. -/
def value (lexer : Lexer) : Except Error Lexer := do
  match lexer.candidate with
  | some found =>
      let forgotten := { lexer with candidate := none, keyAllowed := false }
      let (opens, opened) :=
        if lexer.inFlow then
          (false, forgotten)
        else
          forgotten.openBlock found.column
      let tokens : List Token :=
        if opens then [.key, .blockMappingStart] else [.key]
      .ok ((opened.insertAt found.position tokens).emitMark .value)
  | none =>
      if !lexer.inFlow && !lexer.keyAllowed then
        .error .badToken
      else
        let opened :=
          if lexer.inFlow then lexer else lexer.openHere .blockMappingStart
        .ok ((opened.allowKey (!lexer.inFlow)).emitMark .value)

/-- Reads a token at which a key may begin. -/
def content
    (read : Cursor → Except Error (Token × Cursor))
    (lexer : Lexer) :
    Except Error Lexer := do
  let saved ← lexer.saveCandidate
  let (token, stop) ← read lexer.cursor
  .ok (((saved.allowKey false).emit token).moveTo stop)

/-- Reads a block scalar. -/
def blockScalar (lexer : Lexer) : Except Error Lexer := do
  let cleared ← (lexer.allowKey true).dropCandidate
  let (text, stop) ← readBlock lexer.margin cleared.cursor
  .ok ((cleared.emit (.scalar false text.raw)).moveTo stop)

/-- Reads a plain scalar. -/
def plainScalar (lexer : Lexer) : Except Error Lexer := do
  let saved ← lexer.saveCandidate
  let scalar := readPlain lexer.inFlow lexer.margin lexer.cursor
  .ok (((saved.allowKey scalar.endsLine).emit
    (.scalar true scalar.text.raw)).moveTo scalar.cursor)

/-- The characters with which no plain scalar begins, unless text is attached to them. -/
def indicators : Text :=
  "-?:,[]\x7b\x7d#&*!|>\x27\x22%@\x60".toList

/-- Whether a plain scalar may begin here. -/
def plainBegins (lexer : Lexer) : Bool :=
  let c := lexer.cursor.peek
  !(isGap c || c ∈ indicators) ||
    (!isGap (lexer.cursor.ahead 1) &&
      (c = '-' || (!lexer.inFlow && (c = '?' || c = ':'))))

/-- Reads one token at its first character. -/
def token (lexer : Lexer) : Except Error Lexer :=
  let cursor := lexer.cursor
  let c := cursor.peek
  let detached := lexer.inFlow || isGap (cursor.ahead 1)
  if c = '%' ∧ cursor.column = 0 then
    lexer.directive
  else if cursor.column = 0 ∧ cursor.seesMarks "---".toList then
    lexer.documentMark .documentStart
  else if cursor.column = 0 ∧ cursor.seesMarks "...".toList then
    lexer.documentMark .documentEnd
  else if c = '[' then
    lexer.openFlow .flowSequenceStart
  else if c = '{' then
    lexer.openFlow .flowMappingStart
  else if c = ']' then
    lexer.closeFlow .flowSequenceEnd
  else if c = '}' then
    lexer.closeFlow .flowMappingEnd
  else if c = ',' then
    lexer.flowEntry
  else if c = '-' ∧ isGap (cursor.ahead 1) then
    lexer.blockEntry
  else if c = '?' ∧ detached then
    lexer.explicitKey
  else if c = ':' ∧ detached then
    lexer.value
  else if c = '*' then
    lexer.content fun cursor => do
      let (name, stop) ← readAnchor cursor.forward
      .ok (.alias name, stop)
  else if c = '&' then
    lexer.content fun cursor => do
      let (name, stop) ← readAnchor cursor.forward
      .ok (.anchor name, stop)
  else if c = '!' then
    lexer.content fun cursor => do
      let (tag, stop) ← readTag cursor
      .ok (.tag tag, stop)
  else if (c = '|' ∨ c = '>') ∧ ¬ lexer.inFlow then
    lexer.blockScalar
  else if c = '\'' ∨ c = '"' then
    lexer.content fun cursor => do
      let (text, stop) ← readQuoted cursor
      .ok (.scalar false text, stop)
  else if lexer.plainBegins then
    lexer.plainScalar
  else
    .error .badToken

/-- Reads tokens up to the end of the text. -/
def tokens : Nat → Lexer → Except Error (List Token)
  | 0, lexer => .ok lexer.emitted.reverse
  | fuel + 1, lexer => do
      let next ← (toNextToken (fuel + 1) lexer).refresh
      let unwound :=
        next.unwind
          (if next.cursor.rest.isEmpty then 0 else next.cursor.column + 1)
      if unwound.cursor.rest.isEmpty then do
        let cleared ← unwound.dropCandidate
        .ok cleared.emitted.reverse
      else
        tokens fuel (← unwound.token)

end Lexer

/-- A character that a document may contain. -/
def isPrintable (c : Char) : Bool :=
  let code := c.toNat
  c = '\t' || c = '\n' || c = '\r' || (0x20 ≤ code && code ≤ 0x7E) ||
    code = 0x85 || (0xA0 ≤ code && code ≤ 0xD7FF) ||
    (0xE000 ≤ code && code ≤ 0xFFFD) || 0x10000 ≤ code

/-- The tokens of a text. -/
def tokens (text : Text) : Except Error (List Token) :=
  if text.all isPrintable then
    let lexer := Lexer.start text
    let lexer :=
      if text.head? = some '\uFEFF' then
        lexer.moveTo lexer.cursor.forward
      else
        lexer
    lexer.tokens (text.length + 2)
  else
    .error .unprintable

end ContractTemplates.Yaml
