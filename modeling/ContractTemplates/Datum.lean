import ContractTemplates.Calendar.DateTime
import ContractTemplates.Json.Basic

namespace ContractTemplates

/-!
# Data of unknown shape

Metadata blocks, request bodies and stored schemas hold data whose shape is not
known before it has been checked. A `Datum` is any such value. Mappings keep
their entries in order and may have keys of any kind; two keys are the same if
they are equal numbers, where a truth value counts as zero or one, the same
instant, or otherwise alike.
-/

/-- A value whose shape is still to be checked. -/
inductive Datum where
  | null
  | boolean (value : Bool)
  | number (value : Number)
  | string (value : RawText)
  | bytes (value : List UInt8)
  | date (value : Date)
  | dateTime (value : DateTime)
  | list (items : List Datum)
  | map (entries : List (Datum × Datum))
  | set (members : List Datum)
  | pair (key value : Datum)
  /-- A reference to a collection from inside that collection. -/
  | enclosing
  deriving Inhabited, Repr

namespace Datum

/-- An integer. -/
def integer (value : Int) : Datum :=
  .number (.integer value)

mutual

/-- A JSON value as a datum. -/
def ofJson : Json → Datum
  | .null => .null
  | .boolean value => .boolean value
  | .number value => .number value
  | .string value => .string value
  | .array items => .list (ofItems items)
  | .object members => .map (ofMembers members)

/-- The items of a JSON array as data. -/
def ofItems : List Json → List Datum
  | [] => []
  | item :: rest => ofJson item :: ofItems rest

/-- The members of a JSON object as entries. -/
def ofMembers : List (RawText × Json) → List (Datum × Datum)
  | [] => []
  | (name, value) :: rest => (.string name, ofJson value) :: ofMembers rest

end

/-- The number that a datum is equal to, if any. -/
def asNumber? : Datum → Option Number
  | .boolean value => some (.integer (if value then 1 else 0))
  | .number value => some value
  | _ => none

/-- Whether two keys of a mapping, or two members of a set, are the same. -/
def sameKey (a b : Datum) : Bool :=
  match a.asNumber?, b.asNumber? with
  | some a, some b => a.same b || a = b
  | none, none =>
      match a, b with
      | .null, .null => true
      | .string a, .string b => a = b
      | .bytes a, .bytes b => a = b
      | .date a, .date b => a = b
      | .dateTime a, .dateTime b => a.sameInstant b
      | _, _ => false
  | _, _ => false

/-- Whether a datum is empty, zero, false or missing. -/
def isVacant : Datum → Bool
  | .null => true
  | .boolean value => !value
  | .number value => value.same (.integer 0)
  | .string value => value.isEmpty
  | .bytes value => value.isEmpty
  | .list items => items.isEmpty
  | .map entries => entries.isEmpty
  | .set members => members.isEmpty
  | _ => false

/-- The value of an entry whose key is a text. -/
def entry? (name : Text) (entries : List (Datum × Datum)) : Option Datum :=
  (entries.find? fun entry => sameKey entry.1 (.string name)).map Prod.snd

/-- The word for the kind of a datum in messages. -/
def kindName : Datum → Text
  | .null => "NoneType".toList
  | .boolean _ => "bool".toList
  | .number (.integer _) => "int".toList
  | .number (.double _) => "float".toList
  | .string _ => "str".toList
  | .bytes _ => "bytes".toList
  | .date _ => "date".toList
  | .dateTime _ => "datetime".toList
  | .list _ | .enclosing => "list".toList
  | .map _ => "dict".toList
  | .set _ => "set".toList
  | .pair _ _ => "tuple".toList

end Datum

end ContractTemplates
