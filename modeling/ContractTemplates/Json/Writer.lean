import ContractTemplates.Json.Basic

namespace ContractTemplates.Json

/-!
# JSON text

Values are written on one line with a blank after every comma and colon. Strings
are written in visible ASCII characters, unit by unit: every other unit is
escaped, so a character beyond the first 65536 takes two escapes, and its two
halves are written like the character. Doubles are written with the fewest digits
that read back, so the text of a value determines the value up to such halves.
-/

/-- Four lowercase hexadecimal digits. -/
def fourHexDigits (code : Nat) : Text :=
  let digits := Nat.toDigits 16 code
  List.replicate (4 - digits.length) '0' ++ digits

/-- A unit of sixteen bits as it stands between quotes. -/
def escaped (unit : Nat) : Text :=
  if unit = '"'.toNat then
    ['\\', '"']
  else if unit = '\\'.toNat then
    ['\\', '\\']
  else if unit = '\n'.toNat then
    ['\\', 'n']
  else if unit = '\r'.toNat then
    ['\\', 'r']
  else if unit = '\t'.toNat then
    ['\\', 't']
  else if unit = 12 then
    ['\\', 'f']
  else if unit = 8 then
    ['\\', 'b']
  else if 0x20 ≤ unit ∧ unit ≤ 0x7E then
    [Char.ofNat unit]
  else
    '\\' :: 'u' :: fourHexDigits unit

/-- A string between quotes. -/
def quoted (raw : RawText) : Text :=
  '"' :: raw.units.flatMap escaped ++ ['"']

/-- A number, with words for the doubles that are not finite. -/
def numeral : Number → Text
  | .integer value => Text.ofInt value
  | .double (.infinite false) => "Infinity".toList
  | .double (.infinite true) => "-Infinity".toList
  | .double .notANumber => "NaN".toList
  | .double value => value.text

mutual

/-- The text of a value. -/
def write : Json → Text
  | .null => "null".toList
  | .boolean true => "true".toList
  | .boolean false => "false".toList
  | .number value => numeral value
  | .string value => quoted value
  | .array items => '[' :: writeItems items ++ [']']
  | .object members => '{' :: writeMembers members ++ ['}']

/-- The items of an array, parted by commas. -/
def writeItems : List Json → Text
  | [] => []
  | [item] => write item
  | item :: next :: rest => write item ++ ',' :: ' ' :: writeItems (next :: rest)

/-- The members of an object, parted by commas. -/
def writeMembers : List (RawText × Json) → Text
  | [] => []
  | [(name, value)] => quoted name ++ ':' :: ' ' :: write value
  | (name, value) :: next :: rest =>
      quoted name ++ ':' :: ' ' :: write value ++
        ',' :: ' ' :: writeMembers (next :: rest)

end

end ContractTemplates.Json
