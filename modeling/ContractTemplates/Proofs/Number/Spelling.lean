import Mathlib.Data.List.TakeWhile
import ContractTemplates.Number.Numeral
import ContractTemplates.Proofs.Number.Shortest

namespace ContractTemplates

/-!
# Numerals of doubles

A decimal is written as digits with a point, an exponent, or both. `DecimalParts`
holds these parts, and `DecimalLayout.exact_write` says that the exact layout writes
parts that stand for the decimal it was given, whichever of its forms it takes, and
that an exponent is among them exactly if the first digit is out of the layout's range.
-/

/-- The exponent of ten of the first digit of a decimal. -/
def Decimal.leading (decimal : Decimal) : Int :=
  decimal.exponent + (Nat.toDigits 10 decimal.digits).length - 1

namespace Text

/-- A run of digits is read up to the first character that is none. -/
theorem spanDigits_append_of_ends
    {digits rest : Text}
    (allDigits : ∀ c ∈ digits, c.isDigit = true)
    (ends : ∀ c ∈ rest.head?, c.isDigit = false) :
    spanDigits (digits ++ rest) = (digits, rest) := by
  unfold spanDigits
  rw [List.takeWhile_append_of_pos allDigits,
    List.dropWhile_append_of_pos allDigits]
  cases rest with
  | nil =>
      rw [List.takeWhile_nil, List.dropWhile_nil, List.append_nil]
  | cons c rest =>
      have stops : ¬ c.isDigit = true := by
        rw [ends c rfl]
        exact Bool.false_ne_true
      rw [List.takeWhile_cons_of_neg stops, List.dropWhile_cons_of_neg stops,
        List.append_nil]

theorem isDigit_toDigits
    (n : Nat) :
    ∀ c ∈ Nat.toDigits 10 n, c.isDigit = true := by
  intro c member
  exact Nat.isDigit_of_mem_toDigits (by decide) (by decide) member

/-- The numeral of a positive number does not begin with a zero. -/
theorem head?_toDigits_ne_zero
    {n : Nat}
    (positive : 0 < n) :
    (Nat.toDigits 10 n).head? ≠ some '0' := by
  induction n using Nat.base_induction 10 (by decide) with
  | single n small =>
      rw [Nat.toDigits_of_lt_base small]
      intro zero
      have digit : n.digitChar = '0' :=
        Option.some.inj zero
      rw [Nat.digitChar_eq_zero] at digit
      omega
  | digit n last small more inductionHypothesis =>
      rw [← Nat.toDigits_append_toDigits (by decide) more small,
        List.head?_append]
      cases begins : (Nat.toDigits 10 n).head? with
      | none =>
          exact absurd (List.head?_eq_none_iff.mp begins) Nat.toDigits_ne_nil
      | some c =>
          rw [begins] at inductionHypothesis
          exact inductionHypothesis more

end Text

namespace DecimalLayout

/-- The digits of a number are its significant digits and zeros after them. -/
theorem toDigits_eq_significant
    (digits : Nat) :
    ∃ zeros,
      Nat.toDigits 10 digits =
        significant digits ++ List.replicate zeros '0' := by
  have parts :=
    List.takeWhile_append_dropWhile
      (p := fun c => decide (c = '0')) (l := (Nat.toDigits 10 digits).reverse)
  refine ⟨((Nat.toDigits 10 digits).reverse.takeWhile
    fun c => decide (c = '0')).length, ?_⟩
  have zeros :
      (Nat.toDigits 10 digits).reverse.takeWhile (fun c => decide (c = '0')) =
        List.replicate
          ((Nat.toDigits 10 digits).reverse.takeWhile
            fun c => decide (c = '0')).length '0' := by
    apply List.eq_replicate_iff.mpr
    refine ⟨rfl, ?_⟩
    intro c member
    have zero := List.mem_takeWhile_imp member
    exact of_decide_eq_true zero
  have reversed := congrArg List.reverse parts
  rw [List.reverse_append, List.reverse_reverse, zeros,
    List.reverse_replicate] at reversed
  exact reversed.symm

/-- Whether digits are those of a number without the zeros at its end. -/
structure IsSignificant
    (number : Nat)
    (first : Char)
    (rest : Text)
    (zeros : Nat) : Prop where
  nonzero : first ≠ '0'
  allDigits : ∀ c ∈ first :: rest, c.isDigit = true
  length : (Nat.toDigits 10 number).length = rest.length + 1 + zeros
  value : number = Nat.ofDigitChars 10 (first :: rest) 0 * 10 ^ zeros

/-- The significant digits of a positive number are what is left without the zeros. -/
theorem significant_spec
    {number : Nat}
    (positive : 0 < number) :
    ∃ first rest zeros,
      significant number = first :: rest ∧
        IsSignificant number first rest zeros := by
  obtain ⟨zeros, all⟩ := toDigits_eq_significant number
  have value : Nat.ofDigitChars 10 (Nat.toDigits 10 number) 0 = number :=
    Nat.ofDigitChars_ten_toDigits
  have allDigits := Text.isDigit_toDigits number
  have begins := Text.head?_toDigits_ne_zero positive
  have length := congrArg List.length all
  rw [all] at value allDigits begins
  rw [Nat.ofDigitChars_append, Nat.ofDigitChars_replicate_zero] at value
  generalize significant number = digits at *
  cases digits with
  | nil =>
      rw [Nat.ofDigitChars_nil, Nat.mul_zero] at value
      omega
  | cons first rest =>
      refine ⟨first, rest, zeros, rfl, ?_, ?_, ?_, ?_⟩
      · intro zero
        exact begins (congrArg some zero)
      · intro c member
        exact allDigits c (List.mem_append_left _ member)
      · rw [length, List.length_append, List.length_replicate,
          List.length_cons]
      · rw [Nat.mul_comm]
        exact value.symm

end DecimalLayout

/-- A decimal numeral without its sign. -/
structure DecimalParts where
  /-- The digits before the point. -/
  whole : Text
  /-- The digits after the point; without any there is no point. -/
  places : Text
  exponent : Option Int

namespace DecimalParts

/-- The point and the digits after it, if there are any. -/
def fractionText (places : Text) : Text :=
  if places = [] then [] else '.' :: places

/-- The exponent with its mark, if there is one. -/
def exponentText (exponent : Option Int) : Text :=
  (exponent.map DecimalLayout.exponentText).getD []

/-- The numeral that has these parts. -/
def text (parts : DecimalParts) : Text :=
  parts.whole ++ (fractionText parts.places ++ exponentText parts.exponent)

/-- The decimal that the numeral stands for. -/
def value (parts : DecimalParts) : Decimal :=
  ⟨Nat.ofDigitChars 10 (parts.whole ++ parts.places) 0,
    parts.exponent.getD 0 - parts.places.length⟩

/-- Whether the parts are those of a numeral that is not the numeral of an integer. -/
structure IsFractional (parts : DecimalParts) : Prop where
  wholeDigits : ∀ c ∈ parts.whole, c.isDigit = true
  placesDigits : ∀ c ∈ parts.places, c.isDigit = true
  wholeStart : parts.whole = ['0'] ∨ ∃ c rest, parts.whole = c :: rest ∧ c ≠ '0'
  fractional : parts.places ≠ [] ∨ parts.exponent ≠ none

/-- Whether the parts stand for a number that lies as far up as a decimal. -/
def StandsFor (parts : DecimalParts) (decimal : Decimal) : Prop :=
  ∀ x : FiniteDouble,
    x.readsBack parts.value.digits parts.value.exponent = true ↔
      x.readsBack decimal.digits decimal.exponent = true

/-- Parts stand for a decimal if both are the same digits with zeros after them. -/
theorem standsFor_of_zeros
    {parts : DecimalParts}
    {decimal : Decimal}
    {digits zeros : Nat}
    (more : Nat)
    (value :
      Nat.ofDigitChars 10 (parts.whole ++ parts.places) 0 =
        digits * 10 ^ more)
    (given : decimal.digits = digits * 10 ^ zeros)
    (sameExponent :
      parts.exponent.getD 0 - parts.places.length + more =
        decimal.exponent + zeros) :
    parts.StandsFor decimal := by
  intro x
  unfold DecimalParts.value
  rw [value, given, FiniteDouble.readsBack_mul_pow_iff,
    FiniteDouble.readsBack_mul_pow_iff, sameExponent]

/-- A numeral with a point or an exponent begins with a digit. -/
theorem IsFractional.text_eq_cons
    {parts : DecimalParts}
    (fractional : parts.IsFractional) :
    ∃ c later, parts.text = c :: later ∧ c.isDigit = true := by
  obtain ⟨whole, places, exponent⟩ := parts
  obtain ⟨wholeDigits, _, start, _⟩ := fractional
  dsimp only at wholeDigits start
  rcases start with rfl | ⟨c, later, rfl, _⟩
  · exact ⟨'0', _, rfl, by decide⟩
  · exact ⟨c, _, rfl, wholeDigits c List.mem_cons_self⟩

end DecimalParts

namespace DecimalLayout

variable
  {decimal : Decimal}
  {first : Char}
  {rest : Text}
  {zeros : Nat}

/-- A number below one is written with the zeros before its first digit. -/
theorem parts_below_one
    (digits : IsSignificant decimal.digits first rest zeros)
    (below : decimal.exponent + rest.length + zeros < 0) :
    let parts : DecimalParts :=
      ⟨['0'],
        List.replicate ((decimal.exponent + rest.length + zeros).natAbs - 1) '0'
          ++ first :: rest,
        none⟩
    parts.IsFractional ∧ parts.StandsFor decimal := by
  intro parts
  constructor
  · refine ⟨?_, ?_, Or.inl rfl, Or.inl ?_⟩
    · intro c member
      rw [List.eq_of_mem_singleton member]
      decide
    · intro c member
      rcases List.mem_append.mp member with zero | digit
      · rw [List.eq_of_mem_replicate zero]
        decide
      · exact digits.allDigits c digit
    · exact List.append_ne_nil_of_right_ne_nil _ (List.cons_ne_nil _ _)
  · refine DecimalParts.standsFor_of_zeros 0 ?_ digits.value ?_
    · show Nat.ofDigitChars 10 ('0' :: (_ ++ first :: rest)) 0 = _
      rw [Nat.ofDigitChars_cons, Nat.ofDigitChars_append,
        Nat.ofDigitChars_replicate_zero, Nat.pow_zero, Nat.mul_one]
      rfl
    · show (0 : Int) - (List.length (_ ++ first :: rest) : Nat) + (0 : Nat) = _
      rw [List.length_append, List.length_replicate, List.length_cons]
      omega

/-- A number with more digits than its whole part has the point among them. -/
theorem parts_point_inside
    {whole : Nat}
    (digits : IsSignificant decimal.digits first rest zeros)
    (inside : whole < rest.length)
    (leading : (whole : Int) = decimal.exponent + rest.length + zeros) :
    let parts : DecimalParts :=
      ⟨first :: rest.take whole, rest.drop whole, none⟩
    parts.IsFractional ∧ parts.StandsFor decimal := by
  intro parts
  have joined : parts.whole ++ parts.places = first :: rest := by
    show first :: (rest.take whole ++ rest.drop whole) = first :: rest
    rw [List.take_append_drop]
  constructor
  · refine ⟨?_, ?_, Or.inr ⟨first, _, rfl, digits.nonzero⟩, Or.inl ?_⟩
    · intro c member
      apply digits.allDigits
      rw [← joined]
      exact List.mem_append_left _ member
    · intro c member
      apply digits.allDigits
      rw [← joined]
      exact List.mem_append_right _ member
    · intro none
      have short := List.drop_eq_nil_iff.mp none
      omega
  · refine DecimalParts.standsFor_of_zeros 0 ?_ digits.value ?_
    · rw [joined, Nat.pow_zero, Nat.mul_one]
    · show (0 : Int) - ((rest.drop whole).length : Nat) + (0 : Nat) = _
      rw [List.length_drop]
      omega

/-- A whole number is filled up with zeros and ends in a point and a zero. -/
theorem parts_whole
    {padding : Nat}
    (digits : IsSignificant decimal.digits first rest zeros)
    (filled : (padding : Int) = decimal.exponent + zeros) :
    let parts : DecimalParts :=
      ⟨first :: rest ++ List.replicate padding '0', ['0'], none⟩
    parts.IsFractional ∧ parts.StandsFor decimal := by
  intro parts
  constructor
  · refine ⟨?_, ?_, Or.inr ⟨first, _, rfl, digits.nonzero⟩,
      Or.inl (List.cons_ne_nil _ _)⟩
    · intro c member
      rcases List.mem_append.mp member with digit | zero
      · exact digits.allDigits c digit
      · rw [List.eq_of_mem_replicate zero]
        decide
    · intro c member
      rw [List.eq_of_mem_singleton member]
      decide
  · refine DecimalParts.standsFor_of_zeros (padding + 1) ?_ digits.value ?_
    · show Nat.ofDigitChars 10
        (first :: rest ++ List.replicate padding '0' ++ List.replicate 1 '0') 0 = _
      rw [List.append_assoc, List.replicate_append_replicate,
        Nat.ofDigitChars_append, Nat.ofDigitChars_replicate_zero, Nat.mul_comm]
    · show (0 : Int) - (1 : Nat) + (padding + 1 : Nat) = _
      omega

/-- In scientific form one digit stands before the point. -/
theorem parts_scientific
    (digits : IsSignificant decimal.digits first rest zeros) :
    let parts : DecimalParts :=
      ⟨[first], rest, some (decimal.exponent + rest.length + zeros)⟩
    parts.IsFractional ∧ parts.StandsFor decimal := by
  intro parts
  constructor
  · refine ⟨?_, ?_, Or.inr ⟨first, [], rfl, digits.nonzero⟩,
      Or.inr (Option.some_ne_none _)⟩
    · intro c member
      rw [List.eq_of_mem_singleton member]
      exact digits.allDigits first List.mem_cons_self
    · intro c member
      exact digits.allDigits c (List.mem_cons_of_mem _ member)
  · refine DecimalParts.standsFor_of_zeros 0 ?_ digits.value ?_
    · rw [Nat.pow_zero, Nat.mul_one]
      rfl
    · show decimal.exponent + rest.length + zeros - (rest.length : Nat) +
        (0 : Nat) = _
      omega

/-- Whether a layout writes a decimal without an exponent. -/
def IsPositional (layout : DecimalLayout) (decimal : Decimal) : Prop :=
  layout.positionalFrom ≤ decimal.leading ∧ decimal.leading < layout.positionalBelow

/--
The exact layout writes a numeral that stands for the decimal, with an exponent exactly if the
decimal is not positional.
-/
theorem exact_write
    (positive : 0 < decimal.digits) :
    ∃ parts : DecimalParts,
      exact.write decimal = parts.text ∧
        (parts.exponent = none ↔ exact.IsPositional decimal) ∧
        parts.IsFractional ∧
        parts.StandsFor decimal := by
  obtain ⟨first, rest, zeros, shape, digits⟩ := significant_spec positive
  unfold write IsPositional Decimal.leading
  dsimp only
  rw [shape, digits.length]
  have leadingEq :
      decimal.exponent + (rest.length + 1 + zeros : Nat) - 1 =
        decimal.exponent + rest.length + zeros := by
    omega
  rw [leadingEq]
  split
  next positional =>
    split
    next below =>
      refine ⟨_, ?_, iff_of_true rfl positional, parts_below_one digits below⟩
      unfold DecimalParts.text DecimalParts.fractionText
      rw [if_neg (List.append_ne_nil_of_right_ne_nil _ (List.cons_ne_nil _ _))]
      simp [DecimalParts.exponentText]
    next above =>
      generalize wholeEq :
        (decimal.exponent + rest.length + zeros).natAbs = whole
      rw [List.drop_succ_cons, List.take_succ_cons]
      split
      next fraction =>
        have inside : whole < rest.length := by
          by_contra outside
          exact fraction (List.drop_eq_nil_of_le (by omega))
        refine ⟨⟨first :: rest.take whole, rest.drop whole, none⟩, ?_,
          iff_of_true rfl positional, parts_point_inside digits inside (by omega)⟩
        unfold DecimalParts.text DecimalParts.fractionText
        rw [if_neg fraction]
        simp [DecimalParts.exponentText]
      next noFraction =>
        have filled : ((whole + 1 - (first :: rest).length : Nat) : Int) =
            decimal.exponent + zeros := by
          have short := List.drop_eq_nil_iff.mp (not_not.mp noFraction)
          rw [List.length_cons]
          omega
        refine ⟨_, ?_, iff_of_true rfl positional, parts_whole digits filled⟩
        rfl
  next scientific =>
    refine ⟨_, ?_, iff_of_false (Option.some_ne_none _) scientific,
      parts_scientific digits⟩
    cases rest with
    | nil =>
        rfl
    | cons second later =>
        rfl

end DecimalLayout

namespace Binary64

/-- The only double of no units is zero with a sign. -/
theorem finite_of_units_eq_zero
    {x : FiniteDouble}
    (nothing : x.units = 0) :
    zero x.negative = .finite x := by
  obtain ⟨negative, significand, shift, canonical⟩ := x
  have power : 0 < Nat.pow 2 shift :=
    Nat.pow_pos (by decide)
  have none : significand = 0 :=
    (Nat.mul_eq_zero.mp nothing).resolve_right (Nat.ne_of_gt power)
  subst none
  have unshifted : shift = 0 := by
    rcases canonical.2.2 with unshifted | large
    · exact unshifted
    · exact absurd large (by decide)
  subst unshifted
  rfl

/-- The parts of a written zero. -/
def zeroParts : DecimalParts :=
  ⟨['0'], ['0'], none⟩

theorem zeroParts_isFractional :
    zeroParts.IsFractional := by
  refine ⟨?_, ?_, Or.inl rfl, Or.inl (List.cons_ne_nil _ _)⟩
  · intro c member
    rw [List.eq_of_mem_singleton member]
    decide
  · intro c member
    rw [List.eq_of_mem_singleton member]
    decide

/-- A finite double is written as a sign and parts that are rounded to it. -/
theorem finite_text
    (x : FiniteDouble) :
    ∃ parts : DecimalParts,
      (Binary64.finite x).text = Binary64.signed x.negative parts.text ∧
        parts.IsFractional ∧
        Binary64.ofDecimal x.negative parts.value.digits parts.value.exponent =
          .finite x := by
  by_cases nothing : x.units = 0
  · refine ⟨zeroParts, ?_, zeroParts_isFractional, ?_⟩
    · simp only [Binary64.text]
      rw [if_pos nothing]
      rfl
    · exact finite_of_units_eq_zero nothing
  · have readable := FiniteDouble.shortest_readsBack nothing
    obtain ⟨parts, written, _, fractional, standsFor⟩ :=
      DecimalLayout.exact_write
        (FiniteDouble.point_pos_of_readsBack nothing readable)
    refine ⟨parts, ?_, fractional, ?_⟩
    · simp only [Binary64.text]
      rw [if_neg nothing, written]
    · exact FiniteDouble.ofDecimal_of_readsBack nothing
        ((standsFor x).mpr readable)

end Binary64

end ContractTemplates
