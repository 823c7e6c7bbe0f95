import ContractTemplates.Text.Basic

namespace ContractTemplates

/-!
# Findings of a check

A check of unknown data either yields a checked value or a non-empty list of
issues. An issue says where in the data it was found and what is wrong there.
`Checked.both` and `Checked.all` run several checks and keep the issues of each,
in order, so that one answer names every problem.
-/

/-- One step on the way into a datum: a name, or a position or a number as a key. -/
inductive Step where
  | field (name : Text)
  | index (position : Int)
  deriving DecidableEq, Repr

/-- What is wrong with a datum. -/
inductive Flaw where
  | missing
  | notText
  | textNotUtf8
  | textTooLong (limit : Nat)
  | textNotName
  | notBoolean
  | booleanUnclear
  | notInteger
  | integerUnclear
  | integerTooLarge
  | integerFraction
  | notFinite
  | belowZero
  | notNumber
  | numberUnclear
  | notChoice (choices : List Text)
  | notDateTime
  | dateTimeUnclear (reason : Text)
  | timestampUnclear (reason : Text)
  | notList
  | notSequence
  | textNotSequence
  | notMapping
  | notRecord (model : Text)
  | notFields
  | notPath
  | malformedJson
  | ruleBroken (message : Text)
  deriving DecidableEq, Repr

/-- Quoted choices, parted by commas, with a word before the last. -/
def Flaw.choicesText (choices : List Text) : Text :=
  let quoted := choices.map fun choice => '\'' :: choice ++ ['\'']
  match quoted.reverse with
  | [] => []
  | [only] => only
  | last :: before =>
      Text.joined ", ".toList before.reverse ++ " or ".toList ++ last

/-- The code of a flaw. -/
def Flaw.code : Flaw → Text
  | missing => "missing".toList
  | notText => "string_type".toList
  | textNotUtf8 => "string_unicode".toList
  | textTooLong _ => "string_too_long".toList
  | textNotName => "string_pattern_mismatch".toList
  | notBoolean => "bool_type".toList
  | booleanUnclear => "bool_parsing".toList
  | notInteger => "int_type".toList
  | integerUnclear => "int_parsing".toList
  | integerTooLarge => "int_parsing_size".toList
  | integerFraction => "int_from_float".toList
  | notFinite => "finite_number".toList
  | belowZero => "greater_than_equal".toList
  | notNumber => "float_type".toList
  | numberUnclear => "float_parsing".toList
  | notChoice _ => "literal_error".toList
  | notDateTime => "datetime_type".toList
  | dateTimeUnclear _ => "datetime_from_date_parsing".toList
  | timestampUnclear _ => "datetime_parsing".toList
  | notList => "list_type".toList
  | notSequence => "is_instance_of".toList
  | textNotSequence => "sequence_str".toList
  | notMapping => "dict_type".toList
  | notRecord _ => "model_type".toList
  | notFields => "model_attributes_type".toList
  | notPath => "path_type".toList
  | malformedJson => "json_invalid".toList
  | ruleBroken _ => "value_error".toList

/-- A flaw in words. -/
def Flaw.message : Flaw → Text
  | missing => "Field required".toList
  | notText => "Input should be a valid string".toList
  | textNotUtf8 =>
      "Input should be a valid string, unable to parse raw data as a unicode string".toList
  | textTooLong limit =>
      "String should have at most ".toList ++ Nat.toDigits 10 limit ++
        " characters".toList
  | textNotName => "String should match pattern '^[A-Za-z0-9_]+$'".toList
  | notBoolean => "Input should be a valid boolean".toList
  | booleanUnclear =>
      "Input should be a valid boolean, unable to interpret input".toList
  | notInteger => "Input should be a valid integer".toList
  | integerUnclear =>
      "Input should be a valid integer, unable to parse string as an integer".toList
  | integerTooLarge =>
      "Unable to parse input string as an integer, exceeded maximum size".toList
  | integerFraction =>
      "Input should be a valid integer, got a number with a fractional part".toList
  | notFinite => "Input should be a finite number".toList
  | belowZero => "Input should be greater than or equal to 0".toList
  | notNumber => "Input should be a valid number".toList
  | numberUnclear =>
      "Input should be a valid number, unable to parse string as a number".toList
  | notChoice choices => "Input should be ".toList ++ choicesText choices
  | notDateTime => "Input should be a valid datetime".toList
  | dateTimeUnclear reason =>
      "Input should be a valid datetime or date, ".toList ++ reason
  | timestampUnclear reason =>
      "Input should be a valid datetime, ".toList ++ reason
  | notList => "Input should be a valid list".toList
  | notSequence => "Input should be an instance of Sequence".toList
  | textNotSequence =>
      "\x27str\x27 instances are not allowed as a Sequence value".toList
  | notMapping => "Input should be a valid dictionary".toList
  | notRecord model =>
      "Input should be a valid dictionary or instance of ".toList ++ model
  | notFields =>
      "Input should be a valid dictionary or object to extract fields from".toList
  | notPath =>
      "Input is not a valid path for <class 'pathlib.Path'>".toList
  | malformedJson => "JSON decode error".toList
  | ruleBroken message => "Value error, ".toList ++ message

/-- A flaw and the way to the place where it was found. -/
structure Issue where
  path : List Step
  flaw : Flaw
  deriving DecidableEq, Repr

/-- A checked value, or the issues that were found. -/
abbrev Checked (α : Type) := Except (List Issue) α

namespace Checked

/-- The single issue of a datum as a whole. -/
def fail (flaw : Flaw) : Checked α :=
  .error [⟨[], flaw⟩]

/-- The issues of a check. -/
def issues : Checked α → List Issue
  | .ok _ => []
  | .error found => found

/-- The check of a part, with issues reported from the whole. -/
def within (step : Step) : Checked α → Checked α
  | .ok value => .ok value
  | .error found =>
      .error (found.map fun issue => { issue with path := step :: issue.path })

/-- Both values, or the issues of both checks. -/
def both (first : Checked α) (second : Checked β) : Checked (α × β) :=
  match first, second with
  | .ok a, .ok b => .ok (a, b)
  | _, _ => .error (first.issues ++ second.issues)

/-- All values, or the issues of all checks. -/
def all : List (Checked α) → Checked (List α)
  | [] => .ok []
  | first :: rest => (both first (all rest)).map fun pair => pair.1 :: pair.2

/-- The checked items of a list, with issues reported under their positions. -/
def items (check : α → Checked β) (values : List α) : Checked (List β) :=
  all (values.zipIdx.map fun item => within (.index item.2) (check item.1))

/-- Two checks succeed together exactly if each does. -/
theorem both_eq_ok
    {first : Checked α}
    {second : Checked β}
    {a : α}
    {b : β} :
    both first second = .ok (a, b) ↔ first = .ok a ∧ second = .ok b := by
  cases first <;> cases second <;>
    simp [both]

/-- Reporting from further away changes no success. -/
theorem within_eq_ok
    {step : Step}
    {check : Checked α}
    {value : α} :
    within step check = .ok value ↔ check = .ok value := by
  cases check <;>
    simp [within]

end Checked

end ContractTemplates
