import ContractTemplates.Json.Reader
import ContractTemplates.Json.Writer
import ContractTemplates.Template.Store
import ContractTemplates.Variable.Definition

namespace ContractTemplates

/-!
# Stored schemas

The schema of a template is stored as the JSON text of its definitions.
`Schema.write` makes this text, and `Schema.read` takes it apart where the
definitions are needed to fill a template. An empty text is an empty schema, and
of several definitions that cannot be read the first one is reported.
-/

/-- Why a stored schema cannot be read. -/
inductive SchemaFault where
  | malformed
  | tooManyDigits
  /-- A value that has no items. -/
  | noItems
  | invalid (issues : List Issue)
  deriving DecidableEq, Repr

namespace Schema

/-- The JSON value of a list of definitions. -/
def toJson (definitions : List Definition) : Json :=
  .array (definitions.map Definition.toJson)

/-- The text that is stored for a list of definitions. -/
def write (definitions : List Definition) : Text :=
  (toJson definitions).write

/-- Whether a default can be written: integers have a limited number of digits. -/
def isWritableDefault : DefaultValue → Bool
  | .number (.integer value) => value.natAbs < Nat.pow 10 Numeral.digitLimit
  | _ => true

/-- Whether all defaults can be written. -/
def isWritable (definitions : List Definition) : Bool :=
  definitions.all fun definition =>
    definition.defaultValue.all isWritableDefault

/-- The data of which each should describe a definition. -/
def items? : Json → Option (List Datum)
  | .array items => some (Datum.ofItems items)
  | .object members => some (members.map fun member => .string member.1)
  | .string text => some (text.map fun point => .string [point])
  | _ => none

/-- The definitions that data describe, or the issues of the first that describes none. -/
def checkEach : List Datum → Except SchemaFault (List Definition)
  | [] => .ok []
  | datum :: rest =>
      match Definition.check datum with
      | .ok definition => (checkEach rest).map (definition :: ·)
      | .error issues => .error (.invalid issues)

/-- The definitions in a stored text. -/
def read (text : Text) : Except SchemaFault (List Definition) :=
  if text = [] then
    .ok []
  else
    match Json.read text with
    | .error .malformed => .error .malformed
    | .error .tooManyDigits => .error .tooManyDigits
    | .ok value =>
        match items? value with
        | some data => checkEach data
        | none => .error .noItems

end Schema

end ContractTemplates
