import ContractTemplates.Proofs.Number.ReadBack
import ContractTemplates.Proofs.Variable.DateField
import ContractTemplates.Proofs.Variable.NumberField

namespace ContractTemplates

/-!
# Printed values as raw data

What a field printed may come back as text, when a form is filled in from an old document. A field
for numbers, truth values or days takes its own print again, and a plain field takes any text.
`Definition.coerce_render` says that nothing is printed differently the second time.

The number need not be held in the same way: a whole double comes back as an integer. A plain field
makes a text of whatever it printed, and the only texts it would cut are those that begin with the
shape of a date. No number is written that way, and a day is written as nothing else.
-/

namespace Date

variable
  {digits rest : Text}

/-- What begins with the shape of a date has a hyphen after its leading digits. -/
theorem HasShape.spanDigits_eq
    {shape text : Text}
    (shaped : HasShape shape)
    (begins : shape <+: text) :
    ∃ later, text.spanDigits.2 = '-' :: later := by
  obtain ⟨_, _, _, rfl, _, _, _⟩ := shaped
  obtain ⟨later, rfl⟩ := begins
  simp [Text.spanDigits, Nat.isDigit_digitChar]

theorem leading?_eq_none_iff
    {text : Text} :
    leading? text = none ↔ ∀ shape, HasShape shape → ¬ shape <+: text := by
  simp only [Option.eq_none_iff_forall_ne_some, ne_eq, leading?_eq_some_iff, not_and]

/-- Digits with no hyphen after them do not begin with the shape of a date. -/
theorem leading?_eq_none_of_digits
    (allDigits : ∀ c ∈ digits, c.isDigit = true)
    (ends : ∀ c ∈ rest.head?, c.isDigit = false ∧ c ≠ '-') :
    leading? (digits ++ rest) = none := by
  refine leading?_eq_none_iff.mpr fun shape shaped begins => ?_
  obtain ⟨later, hyphen⟩ := shaped.spanDigits_eq begins
  rw [Text.spanDigits_append_of_ends allDigits fun c first => (ends c first).1] at hyphen
  have follows : rest = '-' :: later := hyphen
  exact (ends '-' (follows ▸ rfl)).2 rfl

/-- A sign in front of a text that does not begin with the shape of a date makes none. -/
theorem leading?_signed_eq_none
    {text : Text}
    (negative : Bool)
    (unshaped : leading? text = none) :
    leading? (Binary64.signed negative text) = none := by
  cases negative with
  | false =>
      exact unshaped
  | true =>
      refine leading?_eq_none_iff.mpr fun shape shaped begins => ?_
      obtain ⟨c, first, digit⟩ := shaped.head?
      obtain ⟨later, rfl⟩ := List.head?_eq_some_iff.mp first
      obtain ⟨rfl, _⟩ := List.cons_prefix_cons.mp begins
      exact absurd digit (by decide)

/-- No blank stands at either end of the text of a day. -/
theorem strip_text
    (date : Date) :
    date.text.strip = date.text := by
  have digits (width n : Nat) : ∀ c ∈ Text.padded width n, Text.isBlank c = false :=
    fun c member => Text.isBlank_eq_false_of_isDigit (Json.isDigit_padded width n c member)
  refine Text.trimmed_eq_self fun c member => ?_
  simp only [text, List.append_assoc, List.cons_append, List.mem_append, List.mem_cons] at member
  rcases member with year | rfl | month | rfl | day
  · exact digits 4 date.year c year
  · decide
  · exact digits 2 date.month c month
  · decide
  · exact digits 2 date.day c day

end Date

/-- What follows the digits before the point begins with a point or with the mark of an exponent. -/
theorem DecimalParts.mark_of_head?
    {places : Text}
    {exponent : Option Int}
    {c : Char}
    (first : c ∈ (fractionText places ++ exponentText exponent).head?) :
    c = '.' ∨ c = 'e' := by
  cases places with
  | cons place later =>
      cases first
      exact .inl rfl
  | nil =>
      cases exponent with
      | none =>
          cases first
      | some value =>
          cases first
          exact .inr rfl

namespace Number

/-- No number is written like a date. -/
theorem leading?_text
    (number : Number) :
    Date.leading? number.text = none := by
  have integer (value : Int) : Date.leading? (Text.ofInt value) = none := by
    have unshaped : Date.leading? (Nat.toDigits 10 value.natAbs ++ []) = none :=
      Date.leading?_eq_none_of_digits (Text.isDigit_toDigits value.natAbs) (by simp)
    rw [List.append_nil] at unshaped
    rw [Json.ofInt_eq_signed]
    exact Date.leading?_signed_eq_none _ unshaped
  match number with
  | .integer value =>
      exact integer value
  | .double (.finite x) =>
      rw [text]
      split
      · exact integer x.toInt
      · obtain ⟨parts, written, fractional, _⟩ := Binary64.finite_text x
        rw [written]
        refine Date.leading?_signed_eq_none _ (Date.leading?_eq_none_of_digits
          fractional.wholeDigits fun c first => ?_)
        rcases DecimalParts.mark_of_head? first with rfl | rfl <;>
          decide
  | .double (.infinite false) | .double (.infinite true) | .double .notANumber =>
      rfl

end Number

namespace Value

variable
  {value : Value}

/-- A text that was printed is printed the same again. -/
theorem render_text_render
    (value : Value) :
    (Value.text value.render).render = value.render := by
  cases value with
  | text value =>
      generalize printed : render (.text value) = text
      rcases render_text_eq_iff.mp printed with ⟨shaped, _⟩ | _
      · exact render_text_eq_iff.mpr (.dated shaped List.prefix_rfl)
      · exact printed
  | number number =>
      show ((Date.leading? number.text.raw.shown).map Text.raw).getD _ = _
      rw [Text.shown_raw, number.leading?_text]
      rfl
  | boolean value =>
      cases value <;>
        rfl
  | date date =>
      have shaped : Date.HasShape date.text := ⟨_, _, _, date.spells_text⟩
      exact render_text_eq_iff.mpr (.dated shaped List.prefix_rfl)

/-- Whether a value can be printed: integers have a limited number of digits. -/
def IsPrintable : Value → Prop
  | .number held => Json.IsWritableNumber held
  | _ => True

end Value

namespace Definition

/--
What a field other than a choice printed, it takes as raw data again, and prints the same.
-/
theorem coerce_render
    {definition : Definition}
    {datum : Datum}
    {value : Value}
    (unlisted : definition.kind ≠ .select)
    (coerced : definition.coerce datum = .ok value)
    (printable : value.IsPrintable) :
    ∃ again,
      definition.coerce (.string value.render) = .ok again ∧
        again.render = value.render := by
  cases kind : definition.kind with
  | select =>
      exact absurd kind unlisted
  | text =>
      simp only [coerce, kind]
      exact ⟨.text value.render, rfl, value.render_text_render⟩
  | number =>
      simp only [coerce, kind] at coerced ⊢
      obtain ⟨number, rfl⟩ := Value.exists_of_toNumber coerced
      have read : Numeral.number? number.text.raw.shown = some number.reread := by
        rw [Text.shown_raw, Number.number?_text printable]
      exact ⟨.number number.reread, Value.toNumber_eq_ok_iff.mpr ⟨_, .numeral read, rfl⟩,
        congrArg Text.raw number.text_reread⟩
  | boolean =>
      simp only [coerce, kind] at coerced ⊢
      obtain ⟨truth, rfl⟩ := Value.exists_of_toBoolean coerced
      refine ⟨.boolean truth, ?_, rfl⟩
      cases truth <;>
        rfl
  | date =>
      simp only [coerce, kind] at coerced ⊢
      obtain ⟨date, rfl⟩ := Value.exists_of_toDate coerced
      refine ⟨.date date, Value.toDate_string_eq_ok_iff.mpr ⟨date, rfl, ?_⟩, rfl⟩
      show date.text <+: date.text.raw.shown.strip
      rw [Text.shown_raw, date.strip_text]

/-- A negative zero is printed without its sign and its point, and comes back as an integer. -/
theorem coerce_render_ofNegativeZero :
    rateDefinition.kind ≠ .select ∧
      ∃ value again,
        rateDefinition.coerce (.string " -0.0".toList) = .ok value ∧
          value.IsPrintable ∧
          value.render = "0".toList ∧
          rateDefinition.coerce (.string "0".toList) = .ok again ∧
          again.render = "0".toList := by
  have other : rateDefinition.kind ≠ .select := by
    decide
  have coerced :
      rateDefinition.coerce (.string " -0.0".toList) =
        .ok (.number (.double (Binary64.zero true))) := by
    decide +kernel
  have printed : (Value.number (.double (Binary64.zero true))).render = "0".toList := by
    decide +kernel
  obtain ⟨again, taken, same⟩ := rateDefinition.coerce_render other coerced trivial
  rw [printed] at taken same
  exact ⟨other, _, again, coerced, trivial, printed, taken, same⟩

end Definition

end ContractTemplates
