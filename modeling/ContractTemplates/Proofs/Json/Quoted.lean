import Mathlib.Tactic.SplitIfs
import ContractTemplates.Json.Reader
import ContractTemplates.Json.Writer
import ContractTemplates.Proofs.Text.Raw

namespace ContractTemplates.Json

/-!
# Strings between quotes

`readQuoted_escaped` says that a string is read back from its escaped form as it is
once merged: it is written unit by unit, the reader goes through the units and
joins two halves that make up a character afterwards. So two strings are written
alike exactly if they are the same once merged, which `quoted_merged` is one half of.
-/

theorem hexValue?_digitChar
    {value : Nat}
    (small : value < 16) :
    Text.hexValue? value.digitChar = some value := by
  have all : ∀ n, n < 16 → Text.hexValue? n.digitChar = some n := by
    decide
  exact all value small

/-- Four hexadecimal digits are the places of a number in base sixteen. -/
theorem fourHexDigits_eq
    {code : Nat}
    (small : code < 0x10000) :
    fourHexDigits code =
      [(code / 0x1000).digitChar, (code / 0x100 % 16).digitChar,
        (code / 16 % 16).digitChar, (code % 16).digitChar] := by
  have twice : code / 16 / 16 = code / 0x100 := by
    omega
  have thrice : code / 0x100 / 16 = code / 0x1000 := by
    omega
  unfold fourHexDigits
  rw [Nat.toDigits_eq_if (by decide), Nat.toDigits_eq_if (by decide),
    Nat.toDigits_eq_if (by decide), twice, thrice]
  -- the padding fills up what is missing to four digits
  split
  next one =>
    have first : code / 0x1000 = 0 := by
      omega
    have second : code / 0x100 % 16 = 0 := by
      omega
    have third : code / 16 % 16 = 0 := by
      omega
    have last : code % 16 = code := by
      omega
    rw [first, second, third, last]
    rfl
  next =>
    split
    next two =>
      have first : code / 0x1000 = 0 := by
        omega
      have second : code / 0x100 % 16 = 0 := by
        omega
      have third : code / 16 % 16 = code / 16 := by
        omega
      rw [first, second, third]
      rfl
    next =>
      split
      next three =>
        have first : code / 0x1000 = 0 := by
          omega
        have second : code / 0x100 % 16 = code / 0x100 := by
          omega
        rw [first, second]
        rfl
      next =>
        rw [Nat.toDigits_of_lt_base (by omega)]
        rfl

theorem readCodes_hexadecimal
    {code : Nat}
    {codes : List Nat}
    {rest later : Text}
    (small : code < 0x10000)
    (readRest : readCodes rest = .ok (codes, later)) :
    readCodes ('\\' :: 'u' :: fourHexDigits code ++ rest) =
      .ok (code :: codes, later) := by
  have value :
      ((code / 0x1000 * 16 + code / 0x100 % 16) * 16 + code / 16 % 16) * 16 +
        code % 16 = code := by
    omega
  have digits :
      fourHex? (code / 0x1000).digitChar (code / 0x100 % 16).digitChar
        (code / 16 % 16).digitChar (code % 16).digitChar = some code := by
    unfold fourHex?
    rw [hexValue?_digitChar (by omega),
      hexValue?_digitChar (Nat.mod_lt _ (by decide)),
      hexValue?_digitChar (Nat.mod_lt _ (by decide)),
      hexValue?_digitChar (Nat.mod_lt _ (by decide))]
    exact congrArg some value
  rw [fourHexDigits_eq small]
  simp only [List.cons_append, List.nil_append, readCodes, digits, readRest]
  rfl

/-- A character that is written as a backslash and a letter is read as its code. -/
theorem readCodes_simpleEscape
    {letter c : Char}
    {codes : List Nat}
    {rest later : Text}
    (different : letter ≠ 'u')
    (escape : simpleEscape? letter = some c)
    (readRest : readCodes rest = .ok (codes, later)) :
    readCodes ('\\' :: letter :: rest) = .ok (c.toNat :: codes, later) := by
  unfold readCodes
  split
  next shape => cases shape
  next shape => exact absurd (List.cons.inj shape).1 (by decide)
  next shape => exact absurd (List.cons.inj (List.cons.inj shape).2).1 different
  next shape =>
    cases shape
    rw [escape, readRest]
    rfl
  next notEscape shape =>
    cases shape
    exact (notEscape letter rest rfl rfl).elim

theorem readCodes_visible
    {c : Char}
    {codes : List Nat}
    {rest later : Text}
    (notQuote : c ≠ '"')
    (notBackslash : c ≠ '\\')
    (visible : 0x20 ≤ c.toNat)
    (readRest : readCodes rest = .ok (codes, later)) :
    readCodes (c :: rest) = .ok (c.toNat :: codes, later) := by
  unfold readCodes
  split
  next shape =>
    cases shape
  next shape =>
    exact absurd (List.cons.inj shape).1 notQuote
  next shape =>
    exact absurd (List.cons.inj shape).1 notBackslash
  next shape =>
    exact absurd (List.cons.inj shape).1 notBackslash
  next shape =>
    cases shape
    have plain : ¬ (c = '\\' ∨ c.toNat < 0x20) := by
      rintro (backslash | control)
      · exact notBackslash backslash
      · omega
    rw [if_neg plain, readRest]
    rfl

/-- A unit is read from its escaped form. -/
theorem readCodes_escaped
    {unit : Nat}
    {codes : List Nat}
    {rest later : Text}
    (small : unit < 0x10000)
    (readRest : readCodes rest = .ok (codes, later)) :
    readCodes (escaped unit ++ rest) = .ok (unit :: codes, later) := by
  unfold escaped
  split_ifs with quote backslash newline carriage tab formFeed backspace visible
  · subst quote
    exact readCodes_simpleEscape (by decide) rfl readRest
  · subst backslash
    exact readCodes_simpleEscape (by decide) rfl readRest
  · subst newline
    exact readCodes_simpleEscape (by decide) rfl readRest
  · subst carriage
    exact readCodes_simpleEscape (by decide) rfl readRest
  · subst tab
    exact readCodes_simpleEscape (by decide) rfl readRest
  · subst formFeed
    exact readCodes_simpleEscape (c := Char.ofNat 12) (by decide) rfl readRest
  · subst backspace
    exact readCodes_simpleEscape (c := Char.ofNat 8) (by decide) rfl readRest
  · have code : (Char.ofNat unit).toNat = unit :=
      Text.toNat_ofNat_of_valid (by unfold Nat.isValidChar; omega)
    have different {c : Char} (other : unit ≠ c.toNat) : Char.ofNat unit ≠ c := by
      rintro rfl
      exact other code.symm
    have read :=
      readCodes_visible (different quote) (different backslash)
        (code.symm ▸ visible.1) readRest
    rwa [code] at read
  · exact readCodes_hexadecimal small readRest

/-- A string is read up to the closing quote as its units. -/
theorem readCodes_flatMap
    {codes : List Nat}
    (small : ∀ unit ∈ codes, unit < 0x10000)
    (rest : Text) :
    readCodes (codes.flatMap escaped ++ '"' :: rest) = .ok (codes, rest) := by
  induction codes with
  | nil =>
      rfl
  | cons unit codes inductionHypothesis =>
      have later := inductionHypothesis fun other member =>
        small other (List.mem_cons_of_mem _ member)
      rw [List.flatMap_cons, List.append_assoc]
      exact readCodes_escaped (small unit (by simp)) later

/-- A string is read back from its escaped form, up to the closing quote and merged. -/
theorem readQuoted_escaped
    (raw : RawText)
    (rest : Text) :
    readQuoted (raw.units.flatMap escaped ++ '"' :: rest) =
      .ok (raw.merged, rest) := by
  unfold readQuoted
  rw [readCodes_flatMap fun _ => RawText.units_lt]
  rfl

/-- Merging changes nothing in how a string is written. -/
theorem quoted_merged
    (raw : RawText) :
    quoted raw.merged = quoted raw := by
  unfold quoted
  rw [RawText.units_merged]

end ContractTemplates.Json
