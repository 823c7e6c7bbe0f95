import ContractTemplates.Entries
import ContractTemplates.Yaml.Tag
import ContractTemplates.Yaml.Token

namespace ContractTemplates.Yaml

/-!
# Nodes

A node is a scalar, a sequence or a mapping with its tag. References have been
replaced by what they refer to; only a reference to a collection from inside
that collection stays what it is.
-/

/-- A node of a document. -/
inductive Node where
  | scalar (tag : Tag) (text : RawText)
  | sequence (tag : Tag) (items : List Node)
  | mapping (tag : Tag) (entries : List (Node × Node))
  | enclosing
  deriving Inhabited, Repr

/-- The tokens still to be read, and what is known of the document. -/
structure Reading where
  tokens : List Token
  /-- The nodes with anchors; nothing for a collection that is still open. -/
  anchors : List (Text × Option Node)
  /-- What the handles of tags stand for. -/
  handles : List (Text × Text)

namespace Reading

/-- What the handles stand for if no directive says otherwise. -/
def standardHandles : List (Text × Text) := [
  (['!'], ['!']),
  (['!', '!'], Tag.standardHandle)]

/-- The next token. -/
def next? (reading : Reading) : Option Token :=
  reading.tokens.head?

/-- The reading after the next token. -/
def drop (reading : Reading) : Reading :=
  { reading with tokens := reading.tokens.tail }

/-- Whether the next token is one of the tokens, or there is none. -/
def sees (tokens : List Token) (reading : Reading) : Bool :=
  reading.next?.all (· ∈ tokens)

/-- The reading after a token that has to follow. -/
def expect (token : Token) (reading : Reading) : Except Error Reading :=
  if reading.next? = some token then
    .ok reading.drop
  else
    .error .badStructure

/-- An anchor, if one follows. -/
def anchor? (reading : Reading) : Option Text × Reading :=
  match reading.next? with
  | some (.anchor name) => (some name, reading.drop)
  | _ => (none, reading)

/-- A tag in full, if one follows. -/
def tag? (reading : Reading) : Except Error (Option Text × Reading) :=
  match reading.next? with
  | some (.tag ⟨none, suffix⟩) => .ok (some suffix, reading.drop)
  | some (.tag ⟨some handle, suffix⟩) =>
      match Entries.find? reading.handles handle with
      | some meaning => .ok (some (meaning ++ suffix), reading.drop)
      | none => .error .badStructure
  | _ => .ok (none, reading)

/-- The anchor and the tag before a node, in either order. -/
def properties? (reading : Reading) :
    Except Error (Option Text × Option Text × Reading) := do
  let (first, afterFirst) := reading.anchor?
  let (tag, afterTag) ← afterFirst.tag?
  match first, tag with
  | none, some _ =>
      let (second, stop) := afterTag.anchor?
      .ok (second, tag, stop)
  | _, _ => .ok (first, tag, afterTag)

/-- Sets an anchor for a node that begins; no anchor is set twice. -/
def openAnchor (anchor : Option Text) (reading : Reading) :
    Except Error Reading :=
  match anchor with
  | none => .ok reading
  | some name =>
      if (Entries.find? reading.anchors name).isSome then
        .error .badAnchor
      else
        .ok { reading with anchors := Entries.put name none reading.anchors }

/-- Puts the node that has ended under its anchor. -/
def closeAnchor (anchor : Option Text) (node : Node) (reading : Reading) :
    Reading :=
  match anchor with
  | none => reading
  | some name =>
      { reading with anchors := Entries.put name (some node) reading.anchors }

/-- The node under an anchor. -/
def referred (name : Text) (reading : Reading) : Except Error Node :=
  match Entries.find? reading.anchors name with
  | some (some node) => .ok node
  | some none => .ok .enclosing
  | none => .error .badAnchor

end Reading

namespace Node

/-- The tag that says nothing but that the node has one. -/
def openTag : Text :=
  ['!']

/-- The tag of a scalar. -/
def scalarTag (plain : Bool) (tag : Option Text) (text : RawText) : Tag :=
  match tag with
  | none => if plain then Tag.ofPlain text.shown else .text
  | some name =>
      if name = openTag then Tag.ofPlain text.shown else Tag.ofName name

/-- The tag of a collection. -/
def collectionTag (absent : Tag) (tag : Option Text) : Tag :=
  match tag with
  | none => absent
  | some name => if name = openTag then absent else Tag.ofName name

/-- The node in a place where nothing is written. -/
def missing : Node :=
  .scalar .null []

mutual

/--
Reads a node. `block` says whether it may be a block, and `indentless` whether
it may be a block sequence that is not indented.
-/
def read (block indentless : Bool) :
    Nat → Reading → Except Error (Node × Reading)
  | 0, _ => .error .badStructure
  | fuel + 1, reading =>
      match reading.next? with
      | some (.alias name) => do
          let node ← reading.referred name
          .ok (node, reading.drop)
      | _ => do
          let (anchor, tag, afterProperties) ← reading.properties?
          let opened ← afterProperties.openAnchor anchor
          let (node, stop) ←
            readContent block indentless (anchor.isSome || tag.isSome) tag fuel
              opened
          .ok (node, stop.closeAnchor anchor node)

/-- Reads what follows the anchor and the tag of a node. -/
def readContent (block indentless marked : Bool) (tag : Option Text) :
    Nat → Reading → Except Error (Node × Reading)
  | 0, _ => .error .badStructure
  | fuel + 1, reading =>
      match reading.next? with
      | some (.scalar plain text) =>
          .ok (.scalar (scalarTag plain tag text) text, reading.drop)
      | some .flowSequenceStart => do
          let (items, stop) ← readFlowItems true fuel reading.drop
          .ok (.sequence (collectionTag .sequence tag) items, stop)
      | some .flowMappingStart => do
          let (entries, stop) ← readFlowEntries true fuel reading.drop
          .ok (.mapping (collectionTag .mapping tag) entries, stop)
      | token =>
          if indentless ∧ token = some .blockEntry then do
            let (items, stop) ← readItems fuel reading
            .ok (.sequence (collectionTag .sequence tag) items, stop)
          else if block ∧ token = some .blockSequenceStart then do
            let (items, rest) ← readItems fuel reading.drop
            let stop ← rest.expect .blockEnd
            .ok (.sequence (collectionTag .sequence tag) items, stop)
          else if block ∧ token = some .blockMappingStart then do
            let (entries, rest) ← readEntries fuel reading.drop
            let stop ← rest.expect .blockEnd
            .ok (.mapping (collectionTag .mapping tag) entries, stop)
          else if marked then
            .ok (.scalar (scalarTag true tag []) [], reading)
          else
            .error .badStructure

/-- Reads a node, or nothing before one of the tokens that may follow it. -/
def readUnless (block indentless : Bool) (ends : List Token) :
    Nat → Reading → Except Error (Node × Reading)
  | 0, _ => .error .badStructure
  | fuel + 1, reading =>
      if reading.sees ends then
        .ok (missing, reading)
      else
        read block indentless fuel reading

/-- Reads the items of a block sequence. -/
def readItems : Nat → Reading → Except Error (List Node × Reading)
  | 0, _ => .error .badStructure
  | fuel + 1, reading =>
      if reading.next? = some .blockEntry then do
        let (item, rest) ←
          readUnless true false [.blockEntry, .key, .value, .blockEnd] fuel
            reading.drop
        let (items, stop) ← readItems fuel rest
        .ok (item :: items, stop)
      else
        .ok ([], reading)

/-- Reads the entries of a block mapping. -/
def readEntries : Nat → Reading → Except Error (List (Node × Node) × Reading)
  | 0, _ => .error .badStructure
  | fuel + 1, reading =>
      if reading.next? = some .key then do
        let (key, afterKey) ←
          readUnless true true [.key, .value, .blockEnd] fuel reading.drop
        let (value, rest) ←
          if afterKey.next? = some .value then
            readUnless true true [.key, .value, .blockEnd] fuel afterKey.drop
          else
            .ok (missing, afterKey)
        let (entries, stop) ← readEntries fuel rest
        .ok ((key, value) :: entries, stop)
      else
        .ok ([], reading)

/-- Reads the value after a key inside brackets. -/
def readFlowValue (ends : List Token) :
    Nat → Reading → Except Error (Node × Reading)
  | 0, _ => .error .badStructure
  | fuel + 1, reading =>
      if reading.next? = some .value then
        readUnless false false ends fuel reading.drop
      else
        .ok (missing, reading)

/-- Reads the items of a sequence in brackets, with the closing bracket. -/
def readFlowItems (first : Bool) :
    Nat → Reading → Except Error (List Node × Reading)
  | 0, _ => .error .badStructure
  | fuel + 1, reading =>
      if reading.next? = some .flowSequenceEnd then
        .ok ([], reading.drop)
      else do
        let start ← if first then .ok reading else reading.expect .flowEntry
        match start.next? with
        | some .flowSequenceEnd => .ok ([], start.drop)
        | some .key =>
            let (key, afterKey) ←
              readUnless false false [.value, .flowEntry, .flowSequenceEnd] fuel
                start.drop
            let (value, rest) ←
              readFlowValue [.flowEntry, .flowSequenceEnd] fuel afterKey
            let (items, stop) ← readFlowItems false fuel rest
            .ok (.mapping .mapping [(key, value)] :: items, stop)
        | _ =>
            let (item, rest) ← read false false fuel start
            let (items, stop) ← readFlowItems false fuel rest
            .ok (item :: items, stop)

/-- Reads the entries of a mapping in braces, with the closing brace. -/
def readFlowEntries (first : Bool) :
    Nat → Reading → Except Error (List (Node × Node) × Reading)
  | 0, _ => .error .badStructure
  | fuel + 1, reading =>
      if reading.next? = some .flowMappingEnd then
        .ok ([], reading.drop)
      else do
        let start ← if first then .ok reading else reading.expect .flowEntry
        match start.next? with
        | some .flowMappingEnd => .ok ([], start.drop)
        | some .key =>
            let (key, afterKey) ←
              readUnless false false [.value, .flowEntry, .flowMappingEnd] fuel
                start.drop
            let (value, rest) ←
              readFlowValue [.flowEntry, .flowMappingEnd] fuel afterKey
            let (entries, stop) ← readFlowEntries false fuel rest
            .ok ((key, value) :: entries, stop)
        | _ =>
            let (key, rest) ← read false false fuel start
            let (entries, stop) ← readFlowEntries false fuel rest
            .ok ((key, missing) :: entries, stop)

end

/-- Adds what a directive says to the handles and to the version that was given. -/
def readDirectives (versioned : Bool) (handles : List (Text × Text)) :
    List Token → Except Error (List (Text × Text) × List Token)
  | .directive (.version major) :: rest =>
      if versioned ∨ major ≠ 1 then
        .error .badStructure
      else
        readDirectives true handles rest
  | .directive (.handle handle meaning) :: rest =>
      if (Entries.find? handles handle).isSome then
        .error .badStructure
      else
        readDirectives versioned (Entries.put handle meaning handles) rest
  | .directive .other :: rest => readDirectives versioned handles rest
  | tokens => .ok (handles, tokens)

/-- Handles with the standard ones where no directive has declared them. -/
def withStandardHandles (handles : List (Text × Text)) : List (Text × Text) :=
  handles ++ Reading.standardHandles

/-- Reads the root of a document and what follows up to the end of the text. -/
def readRoot (reading : Reading) : Except Error Node := do
  let (node, rest) ← read true false (4 * reading.tokens.length + 4) reading
  if rest.tokens.all (· = .documentEnd) then
    .ok node
  else
    .error .severalDocuments

/-- Reads the document after its directives. -/
def readExplicit (tokens : List Token) : Except Error Node := do
  let (handles, rest) ← readDirectives false [] tokens
  match rest with
  | .documentStart :: content =>
      let reading : Reading := ⟨content, [], withStandardHandles handles⟩
      match content with
      | [] | .documentEnd :: _ =>
          if content.all (· = .documentEnd) then
            .ok missing
          else
            .error .severalDocuments
      | .directive _ :: _ | .documentStart :: _ => .error .severalDocuments
      | _ => readRoot reading
  | _ => .error .badStructure

/-- The root of the document that tokens form; nothing if there is no document. -/
def ofTokens (tokens : List Token) : Except Error (Option Node) :=
  match tokens with
  | [] => .ok none
  | .directive _ :: _ | .documentStart :: _ =>
      (readExplicit tokens).map some
  | _ => (readRoot ⟨tokens, [], Reading.standardHandles⟩).map some

end Node

end ContractTemplates.Yaml
