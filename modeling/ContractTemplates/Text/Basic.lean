namespace ContractTemplates

/-!
# Text

Every rule of the catalogue about names, sources and metadata is a rule about
sequences of characters. Text is therefore the list of its characters, and
each law about it goes by induction on that list.

The operations here cut text at a known piece and join pieces again:
`after?` removes a leading piece, `split` cuts at every occurrence of one
character, and `joined` puts a separator between pieces.
-/

/-- Text is the list of its characters. -/
abbrev Text := List Char

/-- Texts that compare as equal are equal. -/
instance Text.lawfulBEq : LawfulBEq Text :=
  inferInstance

namespace Text

/-- What follows `lead` in a text that begins with it. -/
def after? (lead : Text) (text : Text) : Option Text :=
  List.isPrefixOf? lead text

/-- Whether `piece` occurs somewhere in the text as a contiguous run. -/
def contains (piece : Text) : Text → Bool
  | [] => piece.isEmpty
  | c :: rest => piece.isPrefixOf (c :: rest) || contains piece rest

/-- The text and every text that it ends with, the empty one included. -/
def suffixes : Text → List Text
  | [] => [[]]
  | c :: rest => (c :: rest) :: suffixes rest

/-- The pieces of a text between the occurrences of `mark`; never empty. -/
def split (mark : Char) : Text → List Text
  | [] => [[]]
  | c :: rest =>
      match split mark rest with
      | [] => [[c]]
      | piece :: pieces =>
          if c = mark then
            [] :: piece :: pieces
          else
            (c :: piece) :: pieces

/-- The pieces in order with `separator` between neighbours. -/
def joined (separator : Text) (pieces : List Text) : Text :=
  separator.intercalate pieces

/-- The text before the first `mark` and, if there is one, the text after it. -/
def cut (mark : Char) : Text → Text × Option Text
  | [] => ([], none)
  | c :: rest =>
      if c = mark then
        ([], some rest)
      else
        let (before, later) := cut mark rest
        (c :: before, later)

/-- An ASCII letter, a decimal digit or the underscore. -/
def isWordCharacter (c : Char) : Bool :=
  c.isAlphanum || c = '_'

/-- The character with the capitals A to Z lowered. -/
def foldAscii (c : Char) : Char :=
  c.toLower

/-- The decimal numeral of an integer, with a leading minus below zero. -/
def ofInt (n : Int) : Text :=
  if n < 0 then
    '-' :: Nat.toDigits 10 n.natAbs
  else
    Nat.toDigits 10 n.natAbs

/-- A numeral filled up with leading zeros to at least `width` digits. -/
def padded (width n : Nat) : Text :=
  let digits := Nat.toDigits 10 n
  List.replicate (width - digits.length) '0' ++ digits

/-- The run of ASCII digits that a text begins with, and the text after it. -/
def spanDigits (text : Text) : Text × Text :=
  (text.takeWhile Char.isDigit, text.dropWhile Char.isDigit)

/-- The value of a non-empty run of ASCII decimal digits. -/
def toNat? (text : Text) : Option Nat :=
  if text ≠ [] ∧ text.all Char.isDigit then
    some (Nat.ofDigitChars 10 text 0)
  else
    none

/-- Code point order, the order in which names and titles are listed. -/
def le : Text → Text → Bool
  | [], _ => true
  | _ :: _, [] => false
  | a :: as, b :: bs => a < b || (a = b && le as bs)

/-- A leading piece that was put in front is removed again. -/
theorem after?_append
    (lead rest : Text) :
    after? lead (lead ++ rest) = some rest := by
  induction lead with
  | nil =>
      rfl
  | cons c lead inductionHypothesis =>
      show (if c == c then after? lead (lead ++ rest) else none) = some rest
      rw [if_pos (beq_self_eq_true c)]
      exact inductionHypothesis

end Text

end ContractTemplates
