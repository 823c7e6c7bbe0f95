import ContractTemplates.Proofs.Calendar.DayText
import ContractTemplates.Proofs.Number.Spelling
import ContractTemplates.Proofs.Variable.Coercion
import ContractTemplates.Variable.Form

namespace ContractTemplates

/-!
# Visible texts

A text is visible if it has a character that is not blank. The text of every number,
truth value and day is visible, and the text of a text value is visible if the value
is. Raw data that are not missing therefore become a value that can be seen in a
document, whatever kind their definition asks for.
-/

namespace Text

/-- Whether some character of a text is not blank. -/
def IsVisible (text : Text) : Prop :=
  ∃ c ∈ text, isBlank c = false

theorem isBlank_eq_false_of_isDigit
    {c : Char}
    (digit : c.isDigit = true) :
    isBlank c = false := by
  have bounds : 48 ≤ c.toNat ∧ c.toNat ≤ 57 := by
    simp only [Char.isDigit, ge_iff_le, Bool.and_eq_true, decide_eq_true_eq,
      UInt32.le_iff_toNat_le] at digit
    exact digit
  unfold isBlank isSpace
  simp only [Bool.or_eq_false_iff, Bool.and_eq_false_iff,
    decide_eq_false_iff_not]
  omega

/-- A text is blank throughout exactly if nothing is left of it without its blank ends. -/
theorem strip_eq_nil_iff
    {text : Text} :
    text.strip = [] ↔ ∀ c ∈ text, isBlank c = true := by
  unfold strip trimmed
  rw [List.reverse_eq_nil_iff, List.dropWhile_eq_nil_iff]
  constructor
  · intro ended c member
    rw [← List.takeWhile_append_dropWhile (p := isBlank) (l := text)] at member
    rcases List.mem_append.mp member with leading | later
    · exact List.mem_takeWhile_imp leading
    · exact ended c (List.mem_reverse.mpr later)
  · intro blank c member
    exact blank c
      ((List.dropWhile_suffix isBlank).mem (List.mem_reverse.mp member))

theorem isVisible_of_strip_ne_nil
    {text : Text}
    (left : text.strip ≠ []) :
    text.IsVisible := by
  simpa [IsVisible] using mt strip_eq_nil_iff.mpr left

/-- A sign in front hides nothing. -/
theorem IsVisible.signed
    {text : Text}
    (visible : text.IsVisible)
    (negative : Bool) :
    IsVisible (Binary64.signed negative text) := by
  obtain ⟨c, member, seen⟩ := visible
  refine ⟨c, ?_, seen⟩
  cases negative with
  | false =>
      exact member
  | true =>
      exact List.mem_cons_of_mem _ member

theorem isVisible_toDigits
    (n : Nat) :
    IsVisible (Nat.toDigits 10 n) := by
  obtain ⟨c, rest, shape⟩ :=
    List.exists_cons_of_ne_nil (Nat.toDigits_ne_nil (b := 10) (n := n))
  have member : c ∈ Nat.toDigits 10 n := by
    rw [shape]
    exact List.mem_cons_self
  exact ⟨c, member, isBlank_eq_false_of_isDigit (isDigit_toDigits n c member)⟩

theorem isVisible_ofInt
    (n : Int) :
    IsVisible (ofInt n) := by
  have digits := isVisible_toDigits n.natAbs
  unfold ofInt
  split
  · exact digits.signed true
  · exact digits

end Text

/-- Whether some code point is not blank; halves of characters are not. -/
def RawText.IsVisible (raw : RawText) : Prop :=
  raw.shown.IsVisible

theorem RawText.isVisible_raw_iff
    {text : Text} :
    RawText.IsVisible text ↔ text.IsVisible := by
  unfold RawText.IsVisible
  rw [Text.shown_raw]

/-- The text of a double is visible, and so are the words for those that are not finite. -/
theorem Binary64.isVisible_text
    (x : Binary64) :
    x.text.IsVisible := by
  cases x with
  | finite value =>
      obtain ⟨parts, shape, fractional, _⟩ := finite_text value
      obtain ⟨c, later, begins, digit⟩ := fractional.text_eq_cons
      have visible : parts.text.IsVisible := by
        rw [begins]
        exact ⟨c, List.mem_cons_self, Text.isBlank_eq_false_of_isDigit digit⟩
      rw [shape]
      exact visible.signed value.negative
  | infinite negative =>
      have visible : Text.IsVisible ['i', 'n', 'f'] :=
        ⟨'i', List.mem_cons_self, by decide⟩
      exact visible.signed negative
  | notANumber =>
      exact ⟨'n', List.mem_cons_self, by decide⟩

theorem Number.isVisible_text
    (number : Number) :
    number.text.IsVisible := by
  match number with
  | .integer value =>
      exact Text.isVisible_ofInt value
  | .double (.finite value) =>
      rw [Number.text]
      split
      · exact Text.isVisible_ofInt value.toInt
      · exact Binary64.isVisible_text (.finite value)
  | .double (.infinite negative) =>
      exact Binary64.isVisible_text (.infinite negative)
  | .double .notANumber =>
      exact Binary64.isVisible_text .notANumber

namespace Date

theorem isVisible_text
    (date : Date) :
    date.text.IsVisible :=
  ⟨'-', by simp [text], by decide⟩

/-- The shape of a date is visible, whether or not there is such a day. -/
theorem HasShape.isVisible
    {shape : Text}
    (shaped : HasShape shape) :
    shape.IsVisible := by
  obtain ⟨c, first, digit⟩ := shaped.head?
  exact ⟨c, List.mem_of_mem_head? first, Text.isBlank_eq_false_of_isDigit digit⟩

end Date

namespace Value

theorem isVisible_render_text
    {value : RawText}
    (visible : value.IsVisible) :
    (render (.text value)).IsVisible := by
  rw [render]
  cases found : Date.leading? value.shown with
  | some shape =>
      exact RawText.isVisible_raw_iff.mpr
        (Date.leading?_eq_some_iff.mp found).1.isVisible
  | none =>
      exact visible

theorem isVisible_booleanText
    (value : Bool) :
    (booleanText value).IsVisible := by
  cases value with
  | false =>
      exact ⟨'f', by decide, by decide⟩
  | true =>
      exact ⟨'t', by decide, by decide⟩

/-- A value is seen in a document unless it is a text that is blank. -/
theorem isVisible_render
    {value : Value}
    (visible : ∀ text, value = .text text → text.IsVisible) :
    value.render.IsVisible := by
  cases value with
  | text value =>
      exact isVisible_render_text (visible value rfl)
  | number value =>
      exact RawText.isVisible_raw_iff.mpr value.isVisible_text
  | boolean value =>
      exact RawText.isVisible_raw_iff.mpr (isVisible_booleanText value)
  | date value =>
      exact RawText.isVisible_raw_iff.mpr value.isVisible_text

end Value

/-- Raw data that are not missing become a value that is seen in a document. -/
theorem Definition.isVisible_of_coerce
    {definition : Definition}
    {datum : Datum}
    {value : Value}
    (coerced : definition.coerce datum = .ok value)
    (present : datum.isMissing = false) :
    value.render.IsVisible := by
  apply Value.isVisible_render
  rintro text rfl
  have given := definition.eq_string_of_coerce coerced
  subst given
  apply Text.isVisible_of_strip_ne_nil
  simpa [Datum.isMissing] using present

end ContractTemplates
