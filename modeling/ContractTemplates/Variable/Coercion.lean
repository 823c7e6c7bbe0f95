import ContractTemplates.Placeholder
import ContractTemplates.Variable.Definition

namespace ContractTemplates

/-!
# From raw data to values

Raw data become values in two ways. `Value.infer` goes by the kind of the data,
as for names without a definition. `Definition.coerce` goes by the kind of the
definition, which decides what the data have to be: numbers may be written as
numerals, truth values as words and days as text that begins with a day.
-/

/-- Why raw data are not a value. -/
inductive ValueFault where
  | unsupported (kind : Text)
  | notNumber
  | badNumeral
  | notBoolean
  | notDate
  | notOption (options : List RawText)
  deriving DecidableEq, Repr

/-- A fault in words. -/
def ValueFault.message : ValueFault → RawText
  | unsupported kind => "unsupported value of type ".toList ++ kind
  | notNumber => "must be a number".toList
  | badNumeral => "must be a valid number".toList
  | notBoolean => "must be true or false".toList
  | notDate => "must be a date (YYYY-MM-DD)".toList
  | notOption options =>
      "must be one of: ".toList ++ RawText.joined ", ".toList options

namespace Value

/-- The value that data have by their own kind. -/
def infer : Datum → Except ValueFault Value
  | .boolean value => .ok (.boolean value)
  | .number value => .ok (.number value)
  | .dateTime value => .ok (.date value.date)
  | .date value => .ok (.date value)
  | .string value => .ok (.text value)
  | datum => .error (.unsupported datum.kindName)

/-- A number, or text that is a numeral. -/
def toNumber : Datum → Except ValueFault Value
  | .number value => .ok (.number value)
  | .string value =>
      match Numeral.number? value.shown with
      | some found => .ok (.number found)
      | none => .error .badNumeral
  | _ => .error .notNumber

/-- A truth value, or the word for one in any capitals. -/
def toBoolean : Datum → Except ValueFault Value
  | .boolean value => .ok (.boolean value)
  | .string value =>
      let lowered := value.shown.map Text.foldAscii
      if lowered = booleanText true then
        .ok (.boolean true)
      else if lowered = booleanText false then
        .ok (.boolean false)
      else
        .error .notBoolean
  | _ => .error .notBoolean

/-- A day, a point in time, or text that begins with a day. -/
def toDate : Datum → Except ValueFault Value
  | .dateTime value => .ok (.date value.date)
  | .date value => .ok (.date value)
  | .string value =>
      match (Date.leading? value.shown.strip).bind Date.ofShape? with
      | some day => .ok (.date day)
      | none => .error .notDate
  | _ => .error .notDate

/-- One of the options. -/
def toOption (options : List RawText) : Datum → Except ValueFault Value
  | .string value =>
      if value ∈ options then
        .ok (.text value)
      else
        .error (.notOption options)
  | _ => .error (.notOption options)

end Value

/-- The value that data have under a definition. -/
def Definition.coerce (definition : Definition) (datum : Datum) :
    Except ValueFault Value :=
  match definition.kind with
  | .number => Value.toNumber datum
  | .boolean => Value.toBoolean datum
  | .date => Value.toDate datum
  | .select => Value.toOption definition.choices datum
  | .text => Value.infer datum

end ContractTemplates
