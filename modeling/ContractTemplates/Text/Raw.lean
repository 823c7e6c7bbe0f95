import ContractTemplates.Text.Basic

namespace ContractTemplates

/-!
# Text as data spell it

Metadata and JSON may spell the characters of a text by their numbers. The
numbers from 0xD800 up to 0xDFFF belong to no character. They number halves: a
first and a second half next to each other, taken as two units of sixteen bits,
make up one character beyond the first 65536. What spells a half alone is
neither refused nor replaced when it is read, so a string in data is a list of
characters and of halves that stand for themselves: a raw text.

A text without halves is taken for a raw text by `Text.raw` and taken back by
`RawText.text?`. Only such a text can be written in UTF-8. `RawText.merged`
joins halves that make up a character; to `RawText.shown` all halves look alike.
-/

/-- A character, or half of one beyond the first 65536. -/
inductive CodePoint where
  | char (c : Char)
  | half (offset : Fin 0x800)
  deriving DecidableEq, Repr

/-- A string in data: characters, and halves of characters that stand alone. -/
abbrev RawText := List CodePoint

/-- Raw texts that compare as equal are equal. -/
instance RawText.lawfulBEq : LawfulBEq RawText :=
  inferInstance

/-- A text as a string in data. -/
def Text.raw (text : Text) : RawText :=
  text.map .char

instance : Coe Text RawText :=
  ⟨Text.raw⟩

namespace CodePoint

/-- The code point of a number below 0x110000. -/
def ofCode (code : Nat) : CodePoint :=
  if between : 0xD800 ≤ code ∧ code < 0xE000 then
    .half ⟨code - 0xD800, by omega⟩
  else
    .char (Char.ofNat code)

/-- The character, unless it is a half. -/
def char? : CodePoint → Option Char
  | char c => some c
  | half _ => none

/-- The character, and the replacement character for a half. -/
def shown : CodePoint → Char
  | char c => c
  | half _ => '\uFFFD'

/-- The character, and a backslash, the letter u and the number for a half. -/
def spelled : CodePoint → Text
  | char c => [c]
  | half offset => '\\' :: 'u' :: Nat.toDigits 16 (0xD800 + offset.val)

/-- Whether it is an ASCII letter, a decimal digit or the underscore. -/
def isWordCharacter (point : CodePoint) : Bool :=
  point.char?.any Text.isWordCharacter

/-- The units of sixteen bits: two for a character beyond the first 65536. -/
def units : CodePoint → List Nat
  | char c =>
      if c.toNat < 0x10000 then
        [c.toNat]
      else
        [0xD800 + (c.toNat - 0x10000) / 0x400,
          0xDC00 + (c.toNat - 0x10000) % 0x400]
  | half offset => [0xD800 + offset.val]

/-- Whether a unit is a first half. -/
def isFirstHalf (unit : Nat) : Bool :=
  0xD800 ≤ unit && unit < 0xDC00

/-- Whether a unit is a second half. -/
def isSecondHalf (unit : Nat) : Bool :=
  0xDC00 ≤ unit && unit < 0xE000

end CodePoint

namespace RawText

/-- The text, unless there is a half in it. -/
def text? (raw : RawText) : Option Text :=
  raw.mapM CodePoint.char?

/-- Whether there are characters only. -/
def isText (raw : RawText) : Bool :=
  raw.all (·.char?.isSome)

/-- The text with the replacement character for every half. -/
def shown (raw : RawText) : Text :=
  raw.map CodePoint.shown

/--
The raw text as the text of JSON: a half, which can only stand between quotes
there, is spelled by its number.
-/
def spelled (raw : RawText) : Text :=
  raw.flatMap CodePoint.spelled

/-- The pieces in order with `separator` between neighbours. -/
def joined (separator : RawText) (pieces : List RawText) : RawText :=
  separator.intercalate pieces

/-- The units of sixteen bits in order. -/
def units (raw : RawText) : List Nat :=
  raw.flatMap CodePoint.units

/--
The code points of units; a first half directly before a second half is one
character.
-/
def ofUnits : List Nat → RawText
  | [] => []
  | [unit] => [.ofCode unit]
  | first :: second :: rest =>
      if CodePoint.isFirstHalf first && CodePoint.isSecondHalf second then
        .char
            (Char.ofNat
              (0x10000 + (first - 0xD800) * 0x400 + (second - 0xDC00))) ::
          ofUnits rest
      else
        .ofCode first :: ofUnits (second :: rest)

/-- The raw text with every two halves that make up a character joined to it. -/
def merged (raw : RawText) : RawText :=
  ofUnits raw.units

end RawText

namespace Text

@[simp]
theorem raw_nil :
    raw [] = [] :=
  rfl

theorem raw_cons
    (c : Char)
    (rest : Text) :
    raw (c :: rest) = .char c :: raw rest :=
  rfl

@[simp]
theorem raw_append
    (first second : Text) :
    raw (first ++ second) = raw first ++ raw second :=
  List.map_append

@[simp]
theorem length_raw
    (text : Text) :
    text.raw.length = text.length :=
  List.length_map _

@[simp]
theorem raw_eq_nil
    {text : Text} :
    text.raw = [] ↔ text = [] :=
  List.map_eq_nil_iff

@[simp]
theorem shown_raw
    (text : Text) :
    text.raw.shown = text := by
  simp [raw, RawText.shown, Function.comp_def, CodePoint.shown]

@[simp]
theorem spelled_raw
    (text : Text) :
    text.raw.spelled = text := by
  simp [raw, RawText.spelled, List.flatMap_map, CodePoint.spelled]

/-- Different texts stay different as raw texts. -/
@[simp]
theorem raw_inj
    {a b : Text} :
    a.raw = b.raw ↔ a = b := by
  constructor
  · intro same
    rw [← shown_raw a, same, shown_raw]
  · rintro rfl
    rfl

@[simp]
theorem text?_raw
    (text : Text) :
    text.raw.text? = some text := by
  induction text with
  | nil =>
      rfl
  | cons c rest inductionHypothesis =>
      unfold RawText.text? at inductionHypothesis ⊢
      simp [raw_cons, CodePoint.char?, inductionHypothesis]

@[simp]
theorem isText_raw
    (text : Text) :
    text.raw.isText = true := by
  simp [RawText.isText, raw, CodePoint.char?]

end Text

end ContractTemplates
