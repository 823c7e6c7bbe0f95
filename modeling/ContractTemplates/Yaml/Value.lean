import ContractTemplates.Base64
import ContractTemplates.Datum
import ContractTemplates.Yaml.Node

namespace ContractTemplates.Yaml

/-!
# Values of nodes

A node has a value by its tag. Collections are made empty first and filled one
after the other, those nearer to the root before those further in. Of several
faults in a document the one that counts is therefore the one nearest to the
root and, among those, the one written first. A `Staged` result keeps track of
this: it says at which stage of the filling a fault comes up.
-/

/-- A value, or a fault with the stage at which it comes up. -/
inductive Staged (α : Type) where
  | ok (value : α)
  | fault (stage : Nat) (error : Error)

namespace Staged

/-- A result that is there at once. -/
def ofExcept : Except Error α → Staged α
  | .ok value => ok value
  | .error error => fault 0 error

/-- The result of a function on the value. -/
def map (f : α → β) : Staged α → Staged β
  | ok value => ok (f value)
  | fault stage error => fault stage error

/-- The same result one stage later. -/
def later : Staged α → Staged α
  | ok value => ok value
  | fault stage error => fault (stage + 1) error

/-- Both values, or the fault that comes up first. -/
def both : Staged α → Staged β → Staged (α × β)
  | ok a, ok b => ok (a, b)
  | ok _, fault stage error => fault stage error
  | fault stage error, ok _ => fault stage error
  | fault s first, fault t second =>
      if s ≤ t then fault s first else fault t second

/-- The result without its stage. -/
def result : Staged α → Except Error α
  | ok value => .ok value
  | fault _ error => .error error

end Staged

namespace Node

/-- The tag of a node. -/
def tag : Node → Tag
  | scalar tag _ => tag
  | sequence tag _ => tag
  | mapping tag _ => tag
  | enclosing => .other

/-- Whether the value of a node may be a key. -/
def makesKey (node : Node) : Bool :=
  match node with
  | enclosing => false
  | _ =>
      !(node.tag ∈
        [Tag.sequence, .mapping, .set, .orderedMap, .pairs])

mutual

/-- The string of a scalar; a mapping has the string of the value under the sign `=`. -/
def text : Node → Except Error RawText
  | scalar _ value => .ok value
  | mapping _ entries => valueText entries
  | _ => .error .badTag

/-- The string of the first value under the sign `=`. -/
def valueText : List (Node × Node) → Except Error RawText
  | [] => .error .badTag
  | (key, value) :: rest =>
      if key.tag = .value then text value else valueText rest

end

/-- A key in a mapping, where the sign `=` is text. -/
def asKey (key : Node) : Node :=
  match key with
  | scalar .value text => scalar .text text
  | _ => key

mutual

/-- The entries that a mapping takes over from others, and its own. -/
def mergedEntries :
    List (Node × Node) → Except Error (List (Node × Node) × List (Node × Node))
  | [] => .ok ([], [])
  | (key, value) :: rest =>
      if key.tag = .merge then do
        let found ← mergeSource value
        let (merged, own) ← mergedEntries rest
        .ok (found ++ merged, own)
      else do
        let (merged, own) ← mergedEntries rest
        .ok (merged, (key.asKey, value) :: own)

/-- The entries of a mapping, or of several of which the first counts. -/
def mergeSource : Node → Except Error (List (Node × Node))
  | mapping _ entries => do
      let (merged, own) ← mergedEntries entries
      .ok (merged ++ own)
  | sequence _ items => mergeItems items
  | enclosing => .ok []
  | scalar _ _ => .error .badTag

/-- The entries of several mappings, those of the first at the end. -/
def mergeItems : List Node → Except Error (List (Node × Node))
  | [] => .ok []
  | mapping _ entries :: rest => do
      let (merged, own) ← mergedEntries entries
      let others ← mergeItems rest
      .ok (others ++ merged ++ own)
  | _ :: _ => .error .badTag

end

/-- The entries of a mapping; what it takes over comes before its own. -/
def allEntries (entries : List (Node × Node)) :
    Except Error (List (Node × Node)) := do
  let (merged, own) ← mergedEntries entries
  .ok (merged ++ own)

mutual

/-- The number of levels of a node. -/
def height : Node → Nat
  | sequence _ items => heightOfItems items + 1
  | mapping _ entries => heightOfEntries entries + 1
  | _ => 1

/-- The number of levels of the highest item. -/
def heightOfItems : List Node → Nat
  | [] => 0
  | item :: rest => max (height item) (heightOfItems rest)

/-- The number of levels of the highest key or value. -/
def heightOfEntries : List (Node × Node) → Nat
  | [] => 0
  | (key, value) :: rest =>
      max (max (height key) (height value)) (heightOfEntries rest)

end

/-- The truth value of a word in any capitals. -/
def booleanOf (word : Text) : Except Error Datum :=
  let lowered := word.map Text.foldAscii
  if lowered ∈ ["yes", "true", "on"].map String.toList then
    .ok (.boolean true)
  else if lowered ∈ ["no", "false", "off"].map String.toList then
    .ok (.boolean false)
  else
    .error .unknownWord

/-- An integer from a numeral, or a fault. -/
def numeralOf (base : Nat) (numeral : Text) : Except Error Int :=
  match Numeral.integer? base numeral with
  | some value => .ok value
  | none => .error .badValue

/--
The integer of an unsigned numeral: binary after `0b`, hexadecimal after `0x`,
octal after another zero, and in parts of sixty if there are colons.
-/
def unsignedIntegerOf (numeral : Text) : Except Error Int :=
  if numeral = ['0'] then
    .ok 0
  else
    match numeral with
    | [] => .error .noDigits
    | '0' :: 'b' :: digits => numeralOf 2 digits
    | '0' :: 'x' :: digits => numeralOf 16 digits
    | '0' :: _ => numeralOf 8 numeral
    | _ =>
        if ':' ∈ numeral then do
          let parts ← (Text.split ':' numeral).mapM (numeralOf 10)
          .ok (parts.foldl (fun value part => value * 60 + part) 0)
        else
          numeralOf 10 numeral

/-- The integer of a numeral with underscores anywhere. -/
def integerOf (numeral : Text) : Except Error Datum :=
  match numeral.filter (· ≠ '_') with
  | [] => .error .noDigits
  | plain => do
      let (negative, unsigned) := Numeral.unsigned plain
      let value ← unsignedIntegerOf unsigned
      .ok (.integer (if negative then -value else value))

/-- A double from a numeral, or a fault. -/
def doubleNumeralOf (numeral : Text) : Except Error Binary64 :=
  match Numeral.double? numeral with
  | some value => .ok value
  | none => .error .badValue

/-- The sum of parts, of which each counts sixty times as much as the one before. -/
def sumOfSixtieths (base : Nat) (sum : Binary64) :
    List Binary64 → Except Error Binary64
  | [] => .ok sum
  | part :: rest =>
      match Binary64.ofInt base with
      | .infinite _ => .error .tooLarge
      | factor => sumOfSixtieths (base * 60) (sum.add (part.mul factor)) rest

/-- The double of an unsigned numeral in lower case. -/
def unsignedDoubleOf (numeral : Text) : Except Error Binary64 :=
  if numeral = ".inf".toList then
    .ok (.infinite false)
  else if numeral = ".nan".toList then
    .ok .notANumber
  else if ':' ∈ numeral then do
    let parts ← (Text.split ':' numeral).mapM doubleNumeralOf
    sumOfSixtieths 1 (.zero false) parts.reverse
  else
    doubleNumeralOf numeral

/-- The double of a numeral with underscores anywhere. -/
def doubleOf (numeral : Text) : Except Error Datum :=
  match (numeral.filter (· ≠ '_')).map Text.foldAscii with
  | [] => .error .noDigits
  | plain => do
      let (negative, unsigned) := Numeral.unsigned plain
      let value ← unsignedDoubleOf unsigned
      .ok (.number (.double (if negative then value.neg else value)))

/-- The bytes of a text in base sixty-four. -/
def binaryOf (text : Text) : Except Error Datum :=
  if text.all (·.toNat < 128) then
    match Base64.decodeLenient? text with
    | some bytes => .ok (.bytes bytes)
    | none => .error .badTag
  else
    .error .badTag

/-- The day or the point in time of a text. -/
def timestampOf (text : Text) : Except Error Datum :=
  match Timestamp.read? (Tag.decisive text) with
  | none => .error .notTimestamp
  | some stamp =>
      let datum :=
        match stamp.clock with
        | none => stamp.date?.map .date
        | some clock => (stamp.dateTime? clock).map .dateTime
      match datum with
      | some found => .ok found
      | none => .error .badValue

/-- The value of a node that is no collection by its tag. -/
def scalarValue (node : Node) : Except Error Datum := do
  match node.tag with
  | .null =>
      let _ ← node.text
      .ok .null
  | .boolean => booleanOf (← node.text).shown
  | .integer => integerOf (← node.text).shown
  | .double => doubleOf (← node.text).shown
  | .binary => binaryOf (← node.text).shown
  | .timestamp =>
      let text ← node.text
      match node with
      | scalar _ _ => timestampOf text.shown
      | _ => .error .mappedTimestamp
  | .text =>
      let text ← node.text
      .ok (.string text)
  | _ => .error .badTag

/-- The values of nodes in order. -/
def valuesOf (value : Node → Staged Datum) : List Node → Staged (List Datum)
  | [] => .ok []
  | node :: rest =>
      ((value node).both (valuesOf value rest)).map fun pair =>
        pair.1 :: pair.2

/-- The value of a node as a key. -/
def keyOf (value : Node → Staged Datum) (node : Node) : Staged Datum :=
  if node.makesKey then
    value node
  else
    ((value node).both (Staged.fault (α := Unit) 0 .badKey)).map Prod.fst

/-- The values of keys and of what stands under them, in order. -/
def entryValuesOf (value : Node → Staged Datum) :
    List (Node × Node) → Staged (List (Datum × Datum))
  | [] => .ok []
  | (key, held) :: rest =>
      (((keyOf value key).both (value held)).both
        (entryValuesOf value rest)).map fun pair => pair.1 :: pair.2

/-- The values of a mapping, in which later entries take the place of earlier ones. -/
def mappingOf (value : Node → Staged Datum) :
    Node → Staged (List (Datum × Datum))
  | mapping _ entries =>
      match allEntries entries with
      | .ok found =>
          (entryValuesOf value found).map (Entries.collectBy Datum.sameKey)
      | .error error => .fault 0 error
  | _ => .fault 0 .badTag

/-- The value of a mapping with a single entry as a pair. -/
def pairOf (value : Node → Staged Datum) : Node → Staged Datum
  | mapping _ [(key, held)] =>
      ((value key).both (value held)).map fun pair => .pair pair.1 pair.2
  | _ => .fault 0 .badTag

/-- The value of a node, for nodes of at most as many levels as given. -/
def valueWithin : Nat → Node → Staged Datum
  | 0, _ => .fault 0 .badTag
  | levels + 1, node =>
      match node, node.tag with
      | enclosing, _ => .ok .enclosing
      | sequence _ items, .sequence =>
          ((valuesOf (valueWithin levels) items).map .list).later
      | _, .mapping =>
          ((mappingOf (valueWithin levels) node).map .map).later
      | _, .set =>
          ((mappingOf (valueWithin levels) node).map fun entries =>
            .set (entries.map Prod.fst)).later
      | sequence _ items, .orderedMap
      | sequence _ items, .pairs =>
          ((valuesOf (pairOf (valueWithin levels)) items).map .list).later
      | _, .sequence
      | _, .orderedMap
      | _, .pairs => .fault 1 .badTag
      | _, _ => .ofExcept (scalarValue node)

/-- The value of a node. -/
def value (node : Node) : Except Error Datum :=
  (valueWithin node.height node).result

end Node

/-- The value of the document in a text; null if there is no document. -/
def load (text : Text) : Except Error Datum := do
  match ← Node.ofTokens (← tokens text) with
  | some node => node.value
  | none => .ok .null

end ContractTemplates.Yaml
