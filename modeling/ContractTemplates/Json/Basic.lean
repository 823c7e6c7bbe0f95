import ContractTemplates.Number.Numeral
import ContractTemplates.Text.Raw

namespace ContractTemplates

/-!
# JSON values

Stored schemas and request bodies are JSON. An object keeps its members in the
order in which they were written. Numbers are integers of any size or doubles,
and the doubles include the three that are not finite. Strings may hold halves of
characters, which JSON can spell and UTF-8 cannot.
-/

/-- A JSON value. -/
inductive Json where
  | null
  | boolean (value : Bool)
  | number (value : Number)
  | string (value : RawText)
  | array (items : List Json)
  | object (members : List (RawText × Json))
  deriving Inhabited, Repr

namespace Json

/-- An integer as a JSON number. -/
def integer (value : Int) : Json :=
  .number (.integer value)

/-- A string if there is some, null otherwise. -/
def stringOrNull : Option RawText → Json
  | some value => .string value
  | none => .null

mutual

/-- Whether all strings are free of halves, so that the value can be sent in UTF-8. -/
def isText : Json → Bool
  | .string value => value.isText
  | .array items => areText items
  | .object members => haveText members
  | _ => true

/-- Whether all strings of all items are free of halves. -/
def areText : List Json → Bool
  | [] => true
  | item :: rest => item.isText && areText rest

/-- Whether all names and all strings of all members are free of halves. -/
def haveText : List (RawText × Json) → Bool
  | [] => true
  | (name, value) :: rest => name.isText && value.isText && haveText rest

end

end Json

end ContractTemplates
