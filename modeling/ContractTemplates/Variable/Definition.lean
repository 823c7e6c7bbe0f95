import ContractTemplates.Validation.Record

namespace ContractTemplates

/-!
# Definitions of variables

A definition says what a form field is called, what kind of value it takes,
whether a value is required, what stands in for a missing value and, for a
choice, which options there are. `Definition.check` admits exactly the data that
describe a definition, and `Definition.toJson` writes a definition in the form
in which schemas are stored: without the parts that are not given.
-/

/-- The kinds of values that a variable may take. -/
inductive VariableKind where
  | text
  | number
  | boolean
  | date
  | select
  deriving DecidableEq, Repr

namespace VariableKind

/-- The word for a kind. -/
def word : VariableKind → Text
  | text => "text".toList
  | number => "number".toList
  | boolean => "boolean".toList
  | date => "date".toList
  | select => "select".toList

/-- The kinds in the order in which messages list them. -/
def every : List VariableKind :=
  [text, number, boolean, date, select]

/-- The kind that a word stands for. -/
def ofWord? (word : Text) : Option VariableKind :=
  every.find? fun kind => kind.word = word

/-- A kind, given by its word. -/
def check (datum : Datum) : Checked VariableKind := do
  let spelled ←
    match datum with
    | .string value => (Validation.whole value).map some
    | _ => .ok none
  match spelled.bind ofWord? with
  | some kind => .ok kind
  | none => Checked.fail (.notChoice (every.map word))

/-- Every kind is found by its word. -/
theorem ofWord?_word
    (kind : VariableKind) :
    ofWord? kind.word = some kind := by
  cases kind <;>
    decide

end VariableKind

/-- What stands in for a missing value. -/
inductive DefaultValue where
  | text (value : RawText)
  | boolean (value : Bool)
  | number (value : Number)
  deriving DecidableEq, Repr

namespace DefaultValue

/-- A default as a JSON value. -/
def toJson : DefaultValue → Json
  | text value => .string value
  | boolean value => .boolean value
  | number value => .number value

/-- A default as a raw value, as if it had been sent with a request. -/
def toDatum : DefaultValue → Datum
  | text value => .string value
  | boolean value => .boolean value
  | number value => .number value

/-- The issues of a datum as a text, a truth value, an integer and a double. -/
def complaints (datum : Datum) : List Issue :=
  (Checked.within (.field "str".toList) (Validation.text datum)).issues ++
    (Checked.within (.field "bool".toList) (Validation.boolean datum)).issues ++
    (Checked.within (.field "int".toList) (Validation.integer datum)).issues ++
    (Checked.within (.field "float".toList) (Validation.double datum)).issues

/--
A default keeps the kind in which it is given. A day or a point in time becomes
the text of the day, and null means that there is no default.
-/
def check (datum : Datum) : Checked (Option DefaultValue) :=
  match datum with
  | .null => .ok none
  | .boolean value => .ok (some (.boolean value))
  | .number value => .ok (some (.number value))
  | .date value => .ok (some (.text value.text.raw))
  | .dateTime value => .ok (some (.text value.date.text.raw))
  | _ =>
      match Validation.text datum with
      | .ok value => .ok (some (.text value))
      | .error _ => .error (complaints datum)

end DefaultValue

/-- A form field of a template. -/
structure Definition where
  name : RawText
  kind : VariableKind
  label : RawText
  required : Bool
  defaultValue : Option DefaultValue
  options : Option (List RawText)
  deriving DecidableEq, Repr

namespace Definition

/-- The most characters of a name. -/
def nameLimit : Nat :=
  128

/-- The options of a definition; none if no list of options is given. -/
def choices (definition : Definition) : List RawText :=
  definition.options.getD []

/-- A choice needs something to choose from. -/
def checkChoices (definition : Definition) : Checked Definition :=
  if definition.kind = .select ∧ definition.choices = [] then
    Checked.fail
      (.ruleBroken
        ("select variable '".toList ++ definition.name.shown ++
          "' needs at least one option".toList))
  else
    .ok definition

/-- A list of options, or nothing for null. -/
def checkOptions : Datum → Checked (Option (List RawText))
  | .null => .ok none
  | datum => (Validation.list Validation.text datum).map some

/-- The fields of a definition, each checked by itself. -/
def checkFields (entries : List (Datum × Datum)) : Checked Definition :=
  let name :=
    Validation.required ["name".toList] (Validation.name nameLimit) entries
  let kind := Validation.required ["type".toList] VariableKind.check entries
  let label := Validation.required ["label".toList] Validation.text entries
  let required :=
    Validation.optional ["required".toList] false Validation.boolean entries
  let defaultValue :=
    Validation.optional ["defaultValue".toList, "default_value".toList]
      none DefaultValue.check entries
  let options :=
    Validation.optional ["options".toList] none checkOptions entries
  (name.both (kind.both (label.both (required.both
    (defaultValue.both options))))).map
      fun (name, kind, label, required, defaultValue, options) =>
        { name, kind, label, required, defaultValue, options }

/-- A definition from data of unknown shape. -/
def check (datum : Datum) : Checked Definition := do
  let entries ← Validation.record "VariableDefinition".toList datum
  checkChoices (← checkFields entries)

/-- A list of definitions from data of unknown shape. -/
def checkList (datum : Datum) : Checked (List Definition) :=
  Validation.list check datum

/-- The members that a definition has in any case. -/
def commonMembers (definition : Definition) : List (RawText × Json) := [
  ("name".toList, .string definition.name),
  ("type".toList, .string definition.kind.word),
  ("label".toList, .string definition.label),
  ("required".toList, .boolean definition.required)]

/-- A list of options as a JSON value. -/
def optionsJson (options : List RawText) : Json :=
  .array (options.map .string)

/-- A definition as a JSON object without the parts that are not given. -/
def toJson (definition : Definition) : Json :=
  let defaultMember : Option (RawText × Json) :=
    definition.defaultValue.map fun value =>
      ("defaultValue".toList, value.toJson)
  let optionsMember : Option (RawText × Json) :=
    definition.options.map fun options =>
      ("options".toList, optionsJson options)
  .object
    (definition.commonMembers ++ defaultMember.toList ++ optionsMember.toList)

/-- A definition as a JSON object with null for the parts that are not given. -/
def toFullJson (definition : Definition) : Json :=
  let partMembers : List (RawText × Json) := [
    ("defaultValue".toList,
      (definition.defaultValue.map DefaultValue.toJson).getD .null),
    ("options".toList, (definition.options.map optionsJson).getD .null)]
  .object (definition.commonMembers ++ partMembers)

end Definition

end ContractTemplates
