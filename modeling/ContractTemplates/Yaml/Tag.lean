import ContractTemplates.Text.Digit
import ContractTemplates.Yaml.Timestamp

namespace ContractTemplates.Yaml

/-!
# Tags

A tag says what a node means. Plain scalars without a tag get the tag of the
first form that their text has: truth values, doubles, integers, the sign for
merging, nothing, timestamps, and the sign for a value. All other scalars are
text.
-/

/-- What a node means. -/
inductive Tag where
  | null
  | boolean
  | integer
  | double
  | binary
  | timestamp
  | orderedMap
  | pairs
  | set
  | text
  | sequence
  | mapping
  | merge
  | value
  | other
  deriving DecidableEq, Repr

namespace Tag

/-- What the tags of the standard schema begin with. -/
def standardHandle : Text :=
  "tag:yaml.org,2002:".toList

/-- The tags of the standard schema by name. -/
def standardTags : List (Text × Tag) := [
  ("null".toList, .null),
  ("bool".toList, .boolean),
  ("int".toList, .integer),
  ("float".toList, .double),
  ("binary".toList, .binary),
  ("timestamp".toList, .timestamp),
  ("omap".toList, .orderedMap),
  ("pairs".toList, .pairs),
  ("set".toList, .set),
  ("str".toList, .text),
  ("seq".toList, .sequence),
  ("map".toList, .mapping),
  ("merge".toList, .merge),
  ("value".toList, .value)]

/-- The tag of a full name. -/
def ofName (name : Text) : Tag :=
  match Text.after? standardHandle name with
  | some rest => (standardTags.lookup rest).getD .other
  | none => .other

/-- The words for truth values. -/
def booleanWords : List Text :=
  ["yes", "Yes", "YES", "no", "No", "NO", "true", "True", "TRUE", "false",
    "False", "FALSE", "on", "On", "ON", "off", "Off", "OFF"].map String.toList

/-- The words for nothing. -/
def nullWords : List Text :=
  ["~", "null", "Null", "NULL", ""].map String.toList

/-- A decimal digit or an underscore. -/
def isGroupedDigit (c : Char) : Bool :=
  c.isDigit || c = '_'

/-- The text after a sign, if there is one. -/
def afterSign (text : Text) : Text :=
  match text with
  | c :: rest => if c = '+' ∨ c = '-' then rest else text
  | [] => []

/-- Whether a text is nothing or an exponent with its sign. -/
def isExponent (text : Text) : Bool :=
  match text with
  | [] => true
  | mark :: sign :: digits =>
      (mark = 'e' || mark = 'E') && (sign = '+' || sign = '-') &&
        !digits.isEmpty && digits.all Char.isDigit
  | _ => false

/-- Whether a text consists of at least one part below sixty, each after a colon. -/
def areSixtieths (text : Text) : Bool :=
  match Text.split ':' text with
  | [] :: part :: parts =>
      (part :: parts).all fun part =>
        match part with
        | [a] => a.isDigit
        | [a, b] => '0' ≤ a && a ≤ '5' && b.isDigit
        | _ => false
  | _ => false

/-- Whether a text is a point followed by digits, underscores and an exponent. -/
def isFraction (firstDigit : Bool) (text : Text) : Bool :=
  match text with
  | '.' :: rest =>
      (!firstDigit || (rest.headD '.').isDigit) &&
        isExponent (rest.dropWhile isGroupedDigit)
  | _ => false

/-- Whether a text has the form of a double. -/
def isDouble (text : Text) : Bool :=
  let unsigned := afterSign text
  let begins := (unsigned.headD '.').isDigit
  let afterDigits := unsigned.dropWhile isGroupedDigit
  let (sixtieths, fraction) := Text.cut '.' afterDigits
  (begins && isFraction false afterDigits) ||
    isFraction true text ||
    (begins && areSixtieths sixtieths &&
      fraction.any (·.all isGroupedDigit)) ||
    unsigned ∈ [".inf", ".Inf", ".INF"].map String.toList ||
    text ∈ [".nan", ".NaN", ".NAN"].map String.toList

/-- Whether a text is a mark followed by at least one of the characters. -/
def isMarked (mark : String) (accepts : Char → Bool) (text : Text) : Bool :=
  match Text.after? mark.toList text with
  | some digits =>
      !digits.isEmpty && digits.all fun c => accepts c || c = '_'
  | none => false

/-- Whether a text has the form of an integer. -/
def isInteger (text : Text) : Bool :=
  let unsigned := afterSign text
  let begins := '1' ≤ unsigned.headD '0' && unsigned.headD '0' ≤ '9'
  let afterDigits := unsigned.dropWhile isGroupedDigit
  isMarked "0b" (fun c => c = '0' || c = '1') unsigned ||
    isMarked "0" (fun c => '0' ≤ c && c ≤ '7') unsigned ||
    unsigned = ['0'] ||
    (begins && afterDigits.isEmpty) ||
    isMarked "0x" (fun c => (Text.hexValue? c).isSome) unsigned ||
    (begins && areSixtieths afterDigits)

/-- The text that decides about the tag: one line feed at the end does not count. -/
def decisive (text : Text) : Text :=
  if 1 < text.length ∧ text.getLast? = some '\n' then
    text.dropLast
  else
    text

/-- The tag of a scalar without a tag of its own. -/
def ofPlain (text : Text) : Tag :=
  let form := decisive text
  if form ∈ booleanWords then
    .boolean
  else if isDouble form then
    .double
  else if isInteger form then
    .integer
  else if form = ['<', '<'] then
    .merge
  else if form ∈ nullWords then
    .null
  else if Timestamp.recognised form then
    .timestamp
  else if form = ['='] then
    .value
  else if form ∈ [['!'], ['&'], ['*']] then
    .other
  else
    .text

end Tag

end ContractTemplates.Yaml
