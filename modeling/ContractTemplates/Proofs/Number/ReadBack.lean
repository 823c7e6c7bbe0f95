import Mathlib.Data.List.Basic
import ContractTemplates.Proofs.Calendar.DayText
import ContractTemplates.Proofs.Json.Numeral
import ContractTemplates.Proofs.Number.Plain
import ContractTemplates.Proofs.Text.Blank

namespace ContractTemplates

/-!
# Written numbers are read back

The text of a number is a numeral, and `Number.number?_text` says which number it is read as.
Integers and doubles with a point or an exponent come back as they were. A whole double is written
without a point and comes back as an integer, and so do both zeros: `Number.reread` says this, and
`Number.text_reread` that nothing of it shows in the text.
-/

namespace Text

/-- A character of ASCII is its own ASCII digit. -/
theorem asciiDigit_of_lt
    {c : Char}
    (ascii : c.toNat < 128) :
    asciiDigit c = c := by
  have each : ∀ code < 128, asciiDigit (Char.ofNat code) = Char.ofNat code := by
    decide +kernel
  rw [← Char.ofNat_toNat c]
  exact each c.toNat ascii

end Text

namespace Numeral

/-- Whether a character is a digit or one of the marks that numerals are written with. -/
def IsCharacter (c : Char) : Prop :=
  c.isDigit = true ∨ c ∈ ['.', 'e', '-', '+']

variable
  {c : Char}
  {text digits : Text}
  {parts : DecimalParts}

/-- The characters of numerals are ASCII characters, and neither spaces nor underscores. -/
theorem IsCharacter.plain
    (character : IsCharacter c) :
    c.toNat < 128 ∧ Text.isSpace c = false ∧ c ≠ '_' := by
  rcases character with digit | mark
  · obtain ⟨value, rfl⟩ := Text.isDigit_iff.mp digit
    revert value
    decide
  · simp only [List.mem_cons, List.not_mem_nil, or_false] at mark
    rcases mark with rfl | rfl | rfl | rfl <;>
      decide

/-- Neither dropping spaces nor turning digits to ASCII changes a numeral that was written. -/
theorem normalized_eq_self
    (characters : ∀ c ∈ text, IsCharacter c) :
    (text.trimmed Text.isSpace).map Text.asciiDigit = text := by
  rw [Text.trimmed_eq_self fun c member => (characters c member).plain.2.1]
  have same : ∀ c ∈ text, Text.asciiDigit c = id c := fun c member =>
    Text.asciiDigit_of_lt (characters c member).plain.1
  rw [List.map_congr_left same, List.map_id]

/-- The sign of a numeral is split off from what begins with a digit. -/
theorem unsigned_signed
    {later : Text}
    (negative : Bool)
    (digit : c.isDigit = true) :
    unsigned (Binary64.signed negative (c :: later)) = (negative, c :: later) := by
  cases negative with
  | true =>
      rfl
  | false =>
      show unsigned (c :: later) = _
      unfold unsigned
      split
      · next shape =>
          cases shape
          exact absurd digit (by decide)
      · next shape =>
          cases shape
          exact absurd digit (by decide)
      · rfl

theorem unmarked_ten
    (text : Text) :
    unmarked 10 text = text := by
  unfold unmarked
  split
  · simp [baseLetter?]
  · rfl

/-- The digits that integers are read from. -/
def acceptsTen (c : Char) : Bool :=
  (Text.digitValue? c).any (· < 10)

theorem grouped?_eq_self
    {accepts : Char → Bool}
    (nonempty : digits ≠ [])
    (underscore : accepts '_' = false)
    (accepted : ∀ c ∈ digits, accepts c = true) :
    grouped? accepts digits = some digits := by
  fun_induction grouped? accepts digits with
  | case1 =>
      exact absurd rfl nonempty
  | case2 =>
      rfl
  | case3 c refused =>
      exact absurd (accepted c List.mem_cons_self) refused
  | case4 c rest _ _ =>
      have taken := accepted '_' (List.mem_cons_of_mem _ List.mem_cons_self)
      rw [underscore] at taken
      cases taken
  | case5 c rest refused =>
      exact absurd (accepted c List.mem_cons_self) refused
  | case6 c d rest _ _ inductionHypothesis =>
      have others := inductionHypothesis (List.cons_ne_nil d rest) fun c member =>
        accepted c (List.mem_cons_of_mem _ member)
      rw [others]
      rfl
  | case7 c d rest _ refused =>
      exact absurd (accepted c List.mem_cons_self) refused

/-- A character that is neither accepted nor an underscore spoils a run. -/
theorem grouped?_eq_none
    {accepts : Char → Bool}
    (member : c ∈ text)
    (refused : accepts c = false)
    (visible : c ≠ '_') :
    grouped? accepts text = none := by
  fun_induction grouped? accepts text with
  | case1 =>
      rfl
  | case2 d taken =>
      rw [List.mem_singleton.mp member, taken] at refused
      cases refused
  | case3 =>
      rfl
  | case4 d rest taken inductionHypothesis =>
      have later : c ∈ rest := by
        simp only [List.mem_cons, visible, false_or] at member
        exact member.resolve_left (by rintro rfl; simp [taken] at refused)
      rw [inductionHypothesis later]
      rfl
  | case5 =>
      rfl
  | case6 d e rest _ taken inductionHypothesis =>
      have later : c ∈ e :: rest :=
        (List.mem_cons.mp member).resolve_left (by rintro rfl; simp [taken] at refused)
      rw [inductionHypothesis later]
      rfl
  | case7 =>
      rfl

/-- The value of digits is the number whose numeral they are. -/
theorem valueOf_digits
    (allDigits : ∀ c ∈ digits, c.isDigit = true) :
    valueOf 10 digits = Nat.ofDigitChars 10 digits 0 := by
  unfold valueOf
  rw [Nat.ofDigitChars_eq_foldl]
  refine List.foldl_ext _ _ 0 fun value c member => ?_
  simp [Text.digitValue?, allDigits c member]

theorem acceptsTen_of_isDigit
    (digit : c.isDigit = true) :
    acceptsTen c = true := by
  obtain ⟨value, rfl⟩ := Text.isDigit_iff.mp digit
  revert value
  decide

theorem isCharacter_signed
    (negative : Bool)
    (characters : ∀ c ∈ text, IsCharacter c) :
    ∀ c ∈ Binary64.signed negative text, IsCharacter c := by
  cases negative with
  | false =>
      exact characters
  | true =>
      intro c member
      rcases List.mem_cons.mp member with rfl | later
      · exact .inr (by decide)
      · exact characters c later

/-- Digits with a sign are read as an integer. -/
theorem integer?_signed
    (negative : Bool)
    (nonempty : digits ≠ [])
    (allDigits : ∀ c ∈ digits, c.isDigit = true)
    (short : digits.length ≤ digitLimit) :
    integer? 10 (Binary64.signed negative digits) =
      some
        (if negative then -(Nat.ofDigitChars 10 digits 0 : Int)
          else Nat.ofDigitChars 10 digits 0) := by
  have characters := isCharacter_signed negative fun c member => .inl (allDigits c member)
  have grouped : grouped? acceptsTen digits = some digits :=
    grouped?_eq_self nonempty (by decide) fun c member =>
      acceptsTen_of_isDigit (allDigits c member)
  have value := valueOf_digits allDigits
  obtain ⟨c, later, shape⟩ := List.exists_cons_of_ne_nil nonempty
  have split : unsigned (Binary64.signed negative digits) = (negative, digits) := by
    rw [shape]
    exact unsigned_signed negative (allDigits c (shape ▸ List.mem_cons_self))
  unfold integer?
  rw [normalized_eq_self characters, split]
  show (grouped? acceptsTen (unmarked 10 digits) >>= _) = _
  rw [unmarked_ten, grouped]
  show (if 10 = 10 ∧ digitLimit < digits.length then none else _) = _
  rw [if_neg (by omega), value]

/-- A numeral with a point or an exponent is none of an integer. -/
theorem integer?_eq_none
    {later : Text}
    (negative : Bool)
    (characters : ∀ d ∈ c :: later, IsCharacter d)
    (digit : c.isDigit = true)
    {mark : Char}
    (member : mark ∈ c :: later)
    (unaccepted : acceptsTen mark = false) :
    integer? 10 (Binary64.signed negative (c :: later)) = none := by
  have spoilt : grouped? acceptsTen (c :: later) = none :=
    grouped?_eq_none member unaccepted (characters mark member).plain.2.2
  unfold integer?
  rw [normalized_eq_self (isCharacter_signed negative characters),
    unsigned_signed negative digit]
  show (grouped? acceptsTen (unmarked 10 (c :: later)) >>= _) = _
  rw [unmarked_ten, spoilt]
  rfl

theorem ungrouped?_eq_self
    (afterDigit : Bool)
    (plain : '_' ∉ text) :
    ungrouped? afterDigit text = some text := by
  fun_induction ungrouped? afterDigit text with
  | case1 =>
      rfl
  | case2 | case3 | case4 =>
      exact absurd List.mem_cons_self plain
  | case5 _ c rest _ inductionHypothesis =>
      rw [inductionHypothesis fun member => plain (List.mem_cons_of_mem _ member)]
      rfl

/-- What begins with a digit after its sign is no word for a double. -/
theorem plainDouble?_signed
    {later : Text}
    (negative : Bool)
    (digit : c.isDigit = true) :
    plainDouble? (Binary64.signed negative (c :: later)) = magnitude? negative (c :: later) := by
  have kept : c.toLower.isDigit = true := by
    obtain ⟨value, rfl⟩ := Text.isDigit_iff.mp digit
    revert value
    decide
  have noWord (first : Char) (word : Text) (letter : first.isDigit = false) :
      (c :: later).map Char.toLower ≠ first :: word := by
    rintro ⟨⟩
    rw [kept] at letter
    cases letter
  unfold plainDouble?
  rw [unsigned_signed negative digit]
  dsimp only
  rw [if_neg, if_neg]
  · exact noWord 'n' _ (by decide)
  · exact not_or.mpr ⟨noWord 'i' _ (by decide), noWord 'i' _ (by decide)⟩

/-- The digits of an exponent are read as its magnitude. -/
theorem toNat?_padded
    (width n : Nat) :
    Text.toNat? (Text.padded width n) = some n := by
  have all : (Text.padded width n).all Char.isDigit = true :=
    List.all_eq_true.mpr (Json.isDigit_padded width n)
  unfold Text.toNat?
  rw [if_pos ⟨Json.padded_ne_nil width n, all⟩, Json.ofDigitChars_padded]

theorem exponent?_exponentText
    (exponent : Option Int) :
    exponent? (DecimalParts.exponentText exponent) = some (exponent.getD 0) := by
  cases exponent with
  | none =>
      rfl
  | some value =>
      have read := toNat?_padded 2 value.natAbs
      show exponent? (DecimalLayout.exponentText value) = some value
      unfold DecimalLayout.exponentText
      by_cases below : value < 0
      · have same : -(value.natAbs : Int) = value := by
          omega
        rw [if_pos below]
        simp only [exponent?, unsigned, read, Option.map_some, true_or, if_true, same]
      · have same : (value.natAbs : Int) = value := by
          omega
        rw [if_neg below]
        simp only [exponent?, unsigned, read, Option.map_some, true_or, if_true, same,
          Bool.false_eq_true, if_false]

/-- A numeral with a point or an exponent is read as the double nearest to its value. -/
theorem magnitude?_parts
    (negative : Bool)
    (fractional : parts.IsFractional) :
    magnitude? negative parts.text =
      some (Binary64.ofDecimal negative parts.value.digits parts.value.exponent) := by
  obtain ⟨whole, places, exponent⟩ := parts
  obtain ⟨wholeDigits, placesDigits, start, _⟩ := fractional
  dsimp only at wholeDigits placesDigits start
  have noDigit : ∀ c ∈ (DecimalParts.exponentText exponent).head?, c.isDigit = false := by
    have ends := Json.exponentText_not_isDigit exponent Json.isBoundary_nil
    rwa [List.append_nil] at ends
  have nonempty : whole ≠ [] := by
    rcases start with rfl | ⟨c, later, rfl, _⟩ <;>
      exact List.cons_ne_nil _ _
  unfold DecimalParts.text DecimalParts.value DecimalParts.fractionText magnitude?
  dsimp only
  by_cases integral : places = []
  · subst integral
    rw [if_pos rfl, List.nil_append, Text.spanDigits_append_of_ends wholeDigits noDigit]
    have shape :
        DecimalParts.exponentText exponent = [] ∨
          ∃ later, DecimalParts.exponentText exponent = 'e' :: later := by
      cases exponent with
      | none =>
          exact .inl rfl
      | some value =>
          exact .inr ⟨_, rfl⟩
    have read := exponent?_exponentText exponent
    generalize DecimalParts.exponentText exponent = mark at *
    rcases shape with rfl | ⟨later, rfl⟩ <;>
      simp [nonempty, read]
  · have point :
        ∀ c ∈ ('.' :: places ++ DecimalParts.exponentText exponent).head?,
          c.isDigit = false := by
      rintro c ⟨⟩
      decide
    rw [if_neg integral, Text.spanDigits_append_of_ends wholeDigits point]
    simp only [List.cons_append, Text.spanDigits_append_of_ends placesDigits noDigit,
      exponent?_exponentText]
    simp [nonempty]

end Numeral

namespace DecimalParts

variable
  {parts : DecimalParts}

theorem IsFractional.isCharacter
    (fractional : parts.IsFractional) :
    ∀ c ∈ parts.text, Numeral.IsCharacter c := by
  intro c member
  simp only [text, fractionText, exponentText, List.mem_append] at member
  rcases member with whole | fraction | exponent
  · exact .inl (fractional.wholeDigits c whole)
  · split at fraction
    · cases fraction
    · rcases List.mem_cons.mp fraction with rfl | place
      · exact .inr (by decide)
      · exact .inl (fractional.placesDigits c place)
  · cases value : parts.exponent with
    | none =>
        rw [value] at exponent
        cases exponent
    | some number =>
        rw [value] at exponent
        simp only [Option.map_some, Option.getD_some, DecimalLayout.exponentText,
          List.mem_cons] at exponent
        rcases exponent with rfl | rfl | digit
        · exact .inr (by decide)
        · split <;>
            exact .inr (by decide)
        · exact .inl (Json.isDigit_padded 2 number.natAbs c digit)

/-- A numeral that is not the numeral of an integer has a point or an exponent. -/
theorem IsFractional.exists_mark
    (fractional : parts.IsFractional) :
    ∃ mark ∈ parts.text, Numeral.acceptsTen mark = false := by
  rcases fractional.fractional with places | exponent
  · exact ⟨'.', by simp [text, fractionText, places], by decide⟩
  · obtain ⟨value, shape⟩ := Option.ne_none_iff_exists'.mp exponent
    refine ⟨'e', ?_, by decide⟩
    simp [text, exponentText, shape, DecimalLayout.exponentText]

end DecimalParts

/-- No double has more digits before the point than integers may have. -/
theorem FiniteDouble.natAbs_toInt_lt
    (x : FiniteDouble) :
    x.toInt.natAbs < Nat.pow 10 Numeral.digitLimit := by
  have magnitude : x.toInt.natAbs = x.units / Binary64.unitsPerOne := by
    unfold toInt
    generalize x.units / Binary64.unitsPerOne = magnitude
    dsimp only
    split <;>
      omega
  have enough : 342 ≤ Numeral.digitLimit := by
    decide
  rw [magnitude]
  generalize Numeral.digitLimit = reach at enough
  have beyond := lt_of_lt_of_le x.lt_upperHalfway (x.upperHalfway_le enough)
  unfold quarterScale at beyond
  rw [Nat.mul_assoc] at beyond
  exact Nat.div_lt_of_lt_mul (Nat.lt_of_mul_lt_mul_left beyond)

namespace Number

/-- An integer is read back from its numeral. -/
theorem number?_ofInt
    {value : Int}
    (short : value.natAbs < Nat.pow 10 Numeral.digitLimit) :
    Numeral.number? (Text.ofInt value) = some (.integer value) := by
  have length : (Nat.toDigits 10 value.natAbs).length ≤ Numeral.digitLimit := by
    have some : 0 < Numeral.digitLimit := by
      decide
    generalize Numeral.digitLimit = limit at short some ⊢
    exact (Nat.length_toDigits_le_iff (by decide) some).mpr short
  have read :=
    Numeral.integer?_signed (decide (value < 0)) Nat.toDigits_ne_nil
      (Text.isDigit_toDigits value.natAbs) length
  have same :
      (if decide (value < 0) = true then -(value.natAbs : Int) else value.natAbs) = value := by
    simp only [decide_eq_true_eq]
    split <;>
      omega
  rw [← Json.ofInt_eq_signed, Nat.ofDigitChars_ten_toDigits, same] at read
  unfold Numeral.number?
  rw [read]

/-- A finite double that is not whole is read back from its text. -/
theorem number?_fractional
    {x : FiniteDouble}
    {parts : DecimalParts}
    (fractional : parts.IsFractional)
    (rounded :
      Binary64.ofDecimal x.negative parts.value.digits parts.value.exponent = .finite x) :
    Numeral.number? (Binary64.signed x.negative parts.text) =
      some (.double (.finite x)) := by
  obtain ⟨c, later, begins, digit⟩ := fractional.text_eq_cons
  obtain ⟨mark, member, unaccepted⟩ := fractional.exists_mark
  have characters := fractional.isCharacter
  have magnitude := Numeral.magnitude?_parts x.negative fractional
  rw [rounded] at magnitude
  rw [begins] at characters member magnitude ⊢
  have noInteger :=
    Numeral.integer?_eq_none x.negative characters digit member unaccepted
  have signedCharacters := Numeral.isCharacter_signed x.negative characters
  have noUnderscore : '_' ∉ Binary64.signed x.negative (c :: later) := fun underscore =>
    (signedCharacters '_' underscore).plain.2.2 rfl
  have read : Numeral.double? (Binary64.signed x.negative (c :: later)) =
      some (.finite x) := by
    unfold Numeral.double?
    rw [Numeral.normalized_eq_self signedCharacters,
      Numeral.ungrouped?_eq_self false noUnderscore]
    exact (Numeral.plainDouble?_signed x.negative digit).trans magnitude
  unfold Numeral.number?
  rw [noInteger, read]
  rfl

/-- The number that the text of a number is read as. -/
def reread : Number → Number
  | double (.finite x) =>
      if x.isInteger then
        integer x.toInt
      else
        double (.finite x)
  | number => number

theorem text_reread
    (number : Number) :
    number.reread.text = number.text := by
  match number with
  | .integer _ | .double (.infinite _) | .double .notANumber =>
      rfl
  | .double (.finite x) =>
      by_cases whole : x.isInteger = true <;>
        simp [reread, text, whole]

/-- The text of a number is read as a number with the same text. -/
theorem number?_text
    {number : Number}
    (writable : Json.IsWritableNumber number) :
    Numeral.number? number.text = some number.reread := by
  match number with
  | .integer value =>
      exact number?_ofInt writable
  | .double (.finite x) =>
      rw [text, reread]
      split
      · exact number?_ofInt x.natAbs_toInt_lt
      · obtain ⟨parts, written, fractional, rounded⟩ := Binary64.finite_text x
        rw [written]
        exact number?_fractional fractional rounded
  | .double (.infinite false) | .double (.infinite true) | .double .notANumber =>
      rfl

end Number

end ContractTemplates
