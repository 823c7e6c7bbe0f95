import ContractTemplates.Validation.Record
import ContractTemplates.Variable.Form

namespace ContractTemplates

/-!
# Requests to compile

The body of a request to compile holds the raw data of a form under
`variables`. Without that field the form is empty, and other fields are ignored.
-/

/-- A request to compile a template. -/
structure CompileRequest where
  form : Form

namespace CompileRequest

/-- The step from a mapping to what it holds under a key. -/
def keyStep : Datum → Step
  | .string name => .field name.shown
  | .boolean value => .index (if value then 1 else 0)
  | .number (.integer value) =>
      if Validation.fitsWord value then
        .index value
      else
        .field (Text.ofInt value)
  | .number value => .field value.text
  | .date value => .field value.text
  | .dateTime value => .field value.text
  | _ => .field "None".toList

/-- An entry of a form, whose key has to be a text. -/
def checkEntry (entry : Datum × Datum) : Checked (RawText × Datum) :=
  (Checked.within (keyStep entry.1)
    (Checked.within (.field "[key]".toList) (Validation.text entry.1))).map
      fun name => (name, entry.2)

/-- A form from data of unknown shape. -/
def checkForm : Datum → Checked Form
  | .map entries =>
      (Checked.all (entries.map checkEntry)).map Entries.collect
  | _ => Checked.fail .notMapping

/-- The fields of a request, each checked by itself. -/
def checkFields (entries : List (Datum × Datum)) : Checked CompileRequest :=
  (Validation.optional ["variables".toList] [] checkForm entries).map
    CompileRequest.mk

/-- A request from data of unknown shape. -/
def check (datum : Datum) : Checked CompileRequest := do
  checkFields (← Validation.record "CompileRequest".toList datum)

end CompileRequest

end ContractTemplates
