import ContractTemplates.Json.Reader
import ContractTemplates.Json.Writer
import ContractTemplates.Proofs.Number.Spelling
import ContractTemplates.Proofs.Text.Prefix

namespace ContractTemplates.Json

/-!
# Numerals in JSON text

`readValue_numeral` says that the reader takes a written numeral up to its end
and finds the number it was written for. The text after it has to begin with one of
the marks that follow a value, since a further digit would belong to the numeral.
-/

/-- Whether a text begins with a mark that may follow a value, or is empty. -/
def IsBoundary (rest : Text) : Prop :=
  ∀ c ∈ rest.head?, c = ',' ∨ c = ']' ∨ c = '}'

theorem isBoundary_nil :
    IsBoundary [] := by
  intro c member
  cases member

theorem isBoundary_comma
    (rest : Text) :
    IsBoundary (',' :: rest) := by
  intro c member
  cases member
  exact Or.inl rfl

theorem isBoundary_bracket
    (rest : Text) :
    IsBoundary (']' :: rest) := by
  intro c member
  cases member
  exact Or.inr (Or.inl rfl)

theorem isBoundary_brace
    (rest : Text) :
    IsBoundary ('\x7d' :: rest) := by
  intro c member
  cases member
  exact Or.inr (Or.inr rfl)

theorem IsBoundary.not_isDigit
    {rest : Text}
    (boundary : IsBoundary rest) :
    ∀ c ∈ rest.head?, c.isDigit = false := by
  intro c member
  rcases boundary c member with rfl | rfl | rfl
  · decide
  · decide
  · decide

theorem IsBoundary.fractionDigits_eq_none
    {rest : Text}
    (boundary : IsBoundary rest) :
    fractionDigits rest = none := by
  cases rest with
  | nil =>
      rfl
  | cons c rest =>
      rcases boundary c rfl with rfl | rfl | rfl
      · rfl
      · rfl
      · rfl

theorem IsBoundary.exponentPart_eq_none
    {rest : Text}
    (boundary : IsBoundary rest) :
    exponentPart rest = none := by
  cases rest with
  | nil =>
      rfl
  | cons c rest =>
      rcases boundary c rfl with rfl | rfl | rfl
      · rfl
      · rfl
      · rfl

/-- A zero or a run of digits without a leading zero is read as the whole part. -/
theorem wholePart_append
    {whole rest : Text}
    (allDigits : ∀ c ∈ whole, c.isDigit = true)
    (start : whole = ['0'] ∨ ∃ c later, whole = c :: later ∧ c ≠ '0')
    (ends : ∀ c ∈ rest.head?, c.isDigit = false) :
    wholePart (whole ++ rest) = (whole, rest) := by
  rcases start with rfl | ⟨c, later, rfl, nonzero⟩
  · rfl
  · have spanned := Text.spanDigits_append_of_ends allDigits ends
    unfold wholePart
    split
    next shape =>
      exact absurd (List.cons.inj shape).1 nonzero
    next =>
      exact spanned

theorem isDigit_padded
    (width n : Nat) :
    ∀ c ∈ Text.padded width n, c.isDigit = true := by
  intro c member
  rcases List.mem_append.mp member with zero | digit
  · rw [List.eq_of_mem_replicate zero]
    decide
  · exact Text.isDigit_toDigits n c digit

theorem ofDigitChars_padded
    (width n : Nat) :
    Nat.ofDigitChars 10 (Text.padded width n) 0 = n := by
  unfold Text.padded
  rw [Nat.ofDigitChars_append, Nat.ofDigitChars_replicate_zero, Nat.mul_zero]
  exact Nat.ofDigitChars_ten_toDigits

theorem padded_ne_nil
    (width n : Nat) :
    Text.padded width n ≠ [] :=
  List.append_ne_nil_of_right_ne_nil _ Nat.toDigits_ne_nil

theorem exponentPart_append
    {rest : Text}
    (exponent : Int)
    (boundary : IsBoundary rest) :
    exponentPart (DecimalLayout.exponentText exponent ++ rest) =
      some (exponent, rest) := by
  have spanned :=
    Text.spanDigits_append_of_ends (isDigit_padded 2 exponent.natAbs)
      boundary.not_isDigit
  have value := ofDigitChars_padded 2 exponent.natAbs
  have nonempty := padded_ne_nil 2 exponent.natAbs
  unfold DecimalLayout.exponentText
  generalize Text.padded 2 exponent.natAbs = digits at *
  cases digits with
  | nil =>
      exact absurd rfl nonempty
  | cons digit digits =>
      rw [List.cons_append] at spanned
      by_cases below : exponent < 0
      · have same : -(exponent.natAbs : Int) = exponent := by
          omega
        rw [if_pos below]
        simp only [List.cons_append, exponentPart, Numeral.unsigned, spanned,
          value, true_or, if_true, same]
      · have same : (exponent.natAbs : Int) = exponent := by
          omega
        rw [if_neg below]
        simp only [List.cons_append, exponentPart, Numeral.unsigned, spanned,
          value, true_or, if_true, Bool.false_eq_true, if_false, same]

theorem fractionDigits_append
    {places rest : Text}
    (nonempty : places ≠ [])
    (allDigits : ∀ c ∈ places, c.isDigit = true)
    (ends : ∀ c ∈ rest.head?, c.isDigit = false) :
    fractionDigits ('.' :: places ++ rest) = some (places, rest) := by
  have spanned := Text.spanDigits_append_of_ends allDigits ends
  cases places with
  | nil =>
      exact absurd rfl nonempty
  | cons digit places =>
      rw [List.cons_append] at spanned
      simp only [List.cons_append, fractionDigits, spanned]

/-- An exponent that may be missing is read back. -/
theorem exponentPart_exponentText
    {rest : Text}
    (exponent : Option Int)
    (boundary : IsBoundary rest) :
    exponentPart (DecimalParts.exponentText exponent ++ rest) =
      exponent.map fun value => (value, rest) := by
  cases exponent with
  | none =>
      exact boundary.exponentPart_eq_none
  | some value =>
      exact exponentPart_append value boundary

/-- Neither an exponent nor what follows a value begins with a digit. -/
theorem exponentText_not_isDigit
    {rest : Text}
    (exponent : Option Int)
    (boundary : IsBoundary rest) :
    ∀ c ∈ (DecimalParts.exponentText exponent ++ rest).head?,
      c.isDigit = false := by
  cases exponent with
  | none =>
      exact boundary.not_isDigit
  | some value =>
      intro c member
      cases member
      decide

/-- A numeral with a point or an exponent is read as the double nearest to its value. -/
theorem readMagnitude_parts
    {parts : DecimalParts}
    {rest : Text}
    (negative : Bool)
    (fractional : parts.IsFractional)
    (boundary : IsBoundary rest) :
    readMagnitude negative (parts.text ++ rest) =
      .ok
        (.double
          (Binary64.ofDecimal negative parts.value.digits parts.value.exponent),
          rest) := by
  obtain ⟨whole, places, exponent⟩ := parts
  obtain ⟨wholeDigits, placesDigits, start, distinct⟩ := fractional
  dsimp only at wholeDigits placesDigits start distinct
  have noDigit := exponentText_not_isDigit exponent boundary
  have exponentRead := exponentPart_exponentText exponent boundary
  have nonempty : whole ≠ [] := by
    rcases start with rfl | ⟨c, later, rfl, _⟩
    · exact List.cons_ne_nil _ _
    · exact List.cons_ne_nil _ _
  unfold DecimalParts.text DecimalParts.value DecimalParts.fractionText
    readMagnitude
  dsimp only
  rw [List.append_assoc, List.append_assoc]
  by_cases integral : places = []
  · subst integral
    rw [if_pos rfl, List.nil_append, wholePart_append wholeDigits start noDigit]
    cases exponent with
    | none =>
        simp at distinct
    | some value =>
        have noFraction :
            fractionDigits (DecimalParts.exponentText (some value) ++ rest) =
              none :=
          rfl
        simp only [nonempty, if_false, noFraction, Option.map_none,
          Option.getD_none, exponentRead, Option.map_some, Option.getD_some]
  · have point :
        ∀ c ∈ ('.' :: places ++
          (DecimalParts.exponentText exponent ++ rest)).head?,
          c.isDigit = false := by
      intro c member
      cases member
      decide
    rw [if_neg integral, wholePart_append wholeDigits start point]
    simp only [nonempty, if_false,
      fractionDigits_append integral placesDigits noDigit, Option.map_some,
      Option.getD_some, exponentRead]
    cases exponent with
    | none =>
        rfl
    | some value =>
        rfl

/-- A numeral of digits alone is read as an integer. -/
theorem readMagnitude_toDigits
    {n : Nat}
    {rest : Text}
    (negative : Bool)
    (short : n < Nat.pow 10 Numeral.digitLimit)
    (boundary : IsBoundary rest) :
    readMagnitude negative (Nat.toDigits 10 n ++ rest) =
      .ok (.integer (if negative then -(n : Int) else n), rest) := by
  have start :
      Nat.toDigits 10 n = ['0'] ∨
        ∃ c later, Nat.toDigits 10 n = c :: later ∧ c ≠ '0' := by
    rcases Nat.eq_zero_or_pos n with rfl | positive
    · exact Or.inl rfl
    · right
      have begins := Text.head?_toDigits_ne_zero positive
      cases digits : Nat.toDigits 10 n with
      | nil =>
          exact absurd digits Nat.toDigits_ne_nil
      | cons c later =>
          rw [digits] at begins
          exact ⟨c, later, rfl, fun zero => begins (congrArg some zero)⟩
  have length : ¬ Numeral.digitLimit < (Nat.toDigits 10 n).length := by
    have some : 0 < Numeral.digitLimit := by
      decide
    generalize Numeral.digitLimit = limit at short some ⊢
    rw [Nat.not_lt]
    exact (Nat.length_toDigits_le_iff (by decide) some).mpr short
  have value : Nat.ofDigitChars 10 (Nat.toDigits 10 n) 0 = n :=
    Nat.ofDigitChars_ten_toDigits
  unfold readMagnitude
  simp only [wholePart_append (Text.isDigit_toDigits n) start
    boundary.not_isDigit, Nat.toDigits_ne_nil, if_false,
    boundary.fractionDigits_eq_none, boundary.exponentPart_eq_none, length,
    value, Option.map_none, Option.getD_none]

theorem readWord?_digit
    {c : Char}
    {rest : Text}
    (digit : c.isDigit = true) :
    readWord? (c :: rest) = none := by
  have others : ∀ letter : Char, letter.isDigit = false → (letter == c) = false := by
    intro letter noDigit
    apply beq_false_of_ne
    rintro rfl
    rw [digit] at noDigit
    exact Bool.noConfusion noDigit
  simp [readWord?, words, Text.after?, Prefix.isPrefixOf?_cons_cons, others]

theorem readWord?_minus_digit
    {c : Char}
    {rest : Text}
    (digit : c.isDigit = true) :
    readWord? ('-' :: c :: rest) = none := by
  have different : ('I' == c) = false := by
    apply beq_false_of_ne
    rintro rfl
    exact Bool.noConfusion digit
  simp [readWord?, words, Text.after?, Prefix.isPrefixOf?_cons_cons, different]

/-- A numeral that the reader of numerals takes is read as a value. -/
theorem readValue_signed
    {body rest : Text}
    {c : Char}
    {later : Text}
    {number : Number}
    (fuel : Nat)
    (negative : Bool)
    (begins : body = c :: later)
    (digit : c.isDigit = true)
    (magnitude : readMagnitude negative (body ++ rest) = .ok (number, rest)) :
    readValue (fuel + 1) (Binary64.signed negative body ++ rest) =
      .ok (.number number, rest) := by
  subst begins
  cases negative with
  | true =>
      show readValue (fuel + 1) ('-' :: c :: (later ++ rest)) = _
      have number : readNumber ('-' :: c :: (later ++ rest)) = .ok (number, rest) :=
        magnitude
      simp only [readValue, readWord?_minus_digit digit, number]
      rfl
  | false =>
      show readValue (fuel + 1) (c :: (later ++ rest)) = _
      have different :
          ∀ mark : Char, mark.isDigit = false → c ≠ mark := by
        rintro mark noDigit rfl
        rw [digit] at noDigit
        exact Bool.noConfusion noDigit
      have number : readNumber (c :: (later ++ rest)) = .ok (number, rest) := by
        unfold readNumber
        split
        next shape =>
          exact absurd (List.cons.inj shape).1 (different '-' (by decide))
        next =>
          exact magnitude
      unfold readValue
      split
      next shape =>
        exact absurd (List.cons.inj shape).1 (different '"' (by decide))
      next shape =>
        exact absurd (List.cons.inj shape).1 (different '[' (by decide))
      next shape =>
        exact absurd (List.cons.inj shape).1 (different '{' (by decide))
      next =>
        rw [readWord?_digit digit, number]
        rfl

theorem ofInt_eq_signed
    (value : Int) :
    Text.ofInt value =
      Binary64.signed (decide (value < 0)) (Nat.toDigits 10 value.natAbs) := by
  unfold Text.ofInt Binary64.signed
  by_cases below : value < 0
  · simp [below]
  · simp [below]

/-- A written integer is read back. -/
theorem readValue_integer
    {value : Int}
    {rest : Text}
    (fuel : Nat)
    (short : value.natAbs < Nat.pow 10 Numeral.digitLimit)
    (boundary : IsBoundary rest) :
    readValue (fuel + 1) (Text.ofInt value ++ rest) =
      .ok (.number (.integer value), rest) := by
  have magnitude :=
    readMagnitude_toDigits (decide (value < 0)) short boundary
  have same :
      (if decide (value < 0) = true then -(value.natAbs : Int)
        else (value.natAbs : Int)) = value := by
    split
    next below =>
      have below := of_decide_eq_true below
      omega
    next above =>
      have above : ¬ value < 0 := fun below => above (decide_eq_true below)
      omega
  rw [same] at magnitude
  rw [ofInt_eq_signed]
  have allDigits := Text.isDigit_toDigits value.natAbs
  cases digits : Nat.toDigits 10 value.natAbs with
  | nil =>
      exact absurd digits Nat.toDigits_ne_nil
  | cons c later =>
      rw [digits] at magnitude allDigits
      exact readValue_signed fuel _ rfl (allDigits c List.mem_cons_self)
        magnitude

/-- A written finite double is read back. -/
theorem readValue_finite
    {rest : Text}
    (fuel : Nat)
    (x : FiniteDouble)
    (boundary : IsBoundary rest) :
    readValue (fuel + 1) ((Binary64.finite x).text ++ rest) =
      .ok (.number (.double (.finite x)), rest) := by
  obtain ⟨parts, written, fractional, rounded⟩ := Binary64.finite_text x
  obtain ⟨c, later, begins, digit⟩ := fractional.text_eq_cons
  have magnitude := readMagnitude_parts x.negative fractional boundary
  rw [rounded] at magnitude
  rw [written]
  exact readValue_signed fuel x.negative begins digit magnitude

/-- Whether a number can be written and read: integers have a limited number of digits. -/
def IsWritableNumber : Number → Prop
  | .integer value => value.natAbs < Nat.pow 10 Numeral.digitLimit
  | .double _ => True

/-- A written number is read back. -/
theorem readValue_numeral
    {number : Number}
    {rest : Text}
    (fuel : Nat)
    (writable : IsWritableNumber number)
    (boundary : IsBoundary rest) :
    readValue (fuel + 1) (numeral number ++ rest) = .ok (.number number, rest) := by
  match number with
  | .integer value =>
      exact readValue_integer fuel writable boundary
  | .double (.finite x) =>
      exact readValue_finite fuel x boundary
  | .double (.infinite false) =>
      rfl
  | .double (.infinite true) =>
      rfl
  | .double .notANumber =>
      rfl

end ContractTemplates.Json
