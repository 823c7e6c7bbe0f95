import ContractTemplates.Entries
import ContractTemplates.Text.Digit
import ContractTemplates.Text.Utf8

namespace ContractTemplates

/-!
# Request targets

A request names its target by a path and a query. Both are percent-encoded: a
percent sign and two hexadecimal digits stand for a byte, and a percent sign
without them stands for itself. A query is a sequence of fields, parted by
ampersands, in which a plus sign is a space.
-/

/-- The target of a request, as it was sent. -/
structure Target where
  path : Text
  query : Text
  deriving DecidableEq, Repr

namespace Target

/-- The bytes that a percent-encoded text stands for. -/
def decodedBytes : Text → Bytes
  | '%' :: high :: low :: rest =>
      match Text.hexValue? high, Text.hexValue? low with
      | some high, some low =>
          UInt8.ofNat (high * 16 + low) :: decodedBytes rest
      | _, _ => Text.utf8Character '%' ++ decodedBytes (high :: low :: rest)
  | c :: rest => Text.utf8Character c ++ decodedBytes rest
  | [] => []

/-- The text that a percent-encoded text stands for. -/
def decoded (text : Text) : Text :=
  Text.ofUtf8Lossy (decodedBytes text)

/-- A percent sign with the code of a byte. -/
def escapedByte (byte : UInt8) : Text :=
  ['%', (byte.toNat / 16).digitChar.toUpper,
    (byte.toNat % 16).digitChar.toUpper]

/-- Whether a character stands for itself in a location. -/
def isPlain (c : Char) : Bool :=
  c.isAlphanum || c ∈ "_.-~:/%#?=@[]!$&'()*+,;".toList

/-- The text with all other characters percent-encoded. -/
def encoded (text : Text) : Text :=
  text.flatMap fun c =>
    if isPlain c then [c] else (Text.utf8Character c).flatMap escapedByte

/-- The text with percent signs encoded that begin no code of a byte. -/
def withoutStrayPercents : Text → Text
  | '%' :: rest =>
      match rest with
      | high :: low :: _ =>
          if (Text.hexValue? high).isSome && (Text.hexValue? low).isSome then
            '%' :: withoutStrayPercents rest
          else
            "%25".toList ++ withoutStrayPercents rest
      | _ => "%25".toList ++ withoutStrayPercents rest
  | c :: rest => c :: withoutStrayPercents rest
  | [] => []

/-- The path by which the target is routed. -/
def place (target : Target) : Text :=
  decoded target.path

/-- The text of a field with its plus signs and codes decoded. -/
def fieldText (text : Text) : Text :=
  decoded (text.map fun c => if c = '+' then ' ' else c)

/-- The name and the value of a field; the value may be missing. -/
def fieldOf (text : Text) : Text × Text :=
  let (name, value) := Text.cut '=' text
  (fieldText name, fieldText (value.getD []))

/-- The fields of a query; the last one of a name counts. -/
def fields (target : Target) : List (Text × Text) :=
  Entries.collect
    (((Text.split '&' target.query).filter (· ≠ [])).map fieldOf)

/-- The value of a field of the query. -/
def field? (target : Target) (name : Text) : Option Text :=
  Entries.find? target.fields name

/-- A place as a location on a host, with the query of the target. -/
def location (target : Target) (host place : Text) : Text :=
  let query := withoutStrayPercents target.query
  encoded
    (host ++ place ++ if query = [] then [] else '?' :: query)

end Target

end ContractTemplates
