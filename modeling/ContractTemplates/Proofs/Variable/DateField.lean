import Mathlib.Data.List.Infix
import ContractTemplates.Proofs.Variable.PrintedText
import ContractTemplates.Proofs.Variable.Rendering

namespace ContractTemplates

/-!
# Texts in date fields

A field for days takes a text if it begins with a day once the blanks around it are gone, and
prints that day whatever follows it: `Definition.coerce_day_iff`.

A plain field prints a text that begins with the shape of a date as these ten characters too, but
it drops no blanks before it looks. `Definition.printed_alike_iff` says that the two fields
therefore print the same exactly if no blank stands in front of the day.
-/

namespace Text

/-- Whether a blank stands at the start of a text. -/
def BeginsBlank (text : Text) : Prop :=
  ∃ c ∈ text.head?, isBlank c = true

/-- Dropping the blanks at the end leaves the start of what follows the blanks in front. -/
theorem strip_prefix_dropWhile
    (text : Text) :
    text.strip <+: text.dropWhile isBlank := by
  have suffix := List.dropWhile_suffix (l := (text.dropWhile isBlank).reverse) isBlank
  have reversed := List.reverse_prefix.mpr suffix
  rwa [List.reverse_reverse] at reversed

theorem dropWhile_isBlank_of_not_beginsBlank
    {text : Text}
    (flush : ¬ text.BeginsBlank) :
    text.dropWhile isBlank = text := by
  cases text with
  | nil =>
      rfl
  | cons c rest =>
      have visible : ¬ isBlank c = true := fun blank => flush ⟨c, rfl, blank⟩
      exact List.dropWhile_cons_of_neg visible

end Text

variable
  {definition : Definition}
  {raw : RawText}
  {day : Text}
  {value : Value}

namespace Date

/-- Only one day stands at the start of a text. -/
theorem NamesDay.unique
    {text other : Text}
    (names : NamesDay day)
    (begins : day <+: text)
    (again : NamesDay other)
    (beginsAgain : other <+: text) :
    day = other := by
  obtain ⟨_, _, _, spells, _⟩ := names
  obtain ⟨_, _, _, spellsAgain, _⟩ := again
  have sameLength : day.length = other.length := by
    rw [spells.length, spellsAgain.length]
  have nested := List.prefix_of_prefix_length_le begins beginsAgain sameLength.le
  exact nested.eq_of_length sameLength

theorem namesDay_text
    (date : Date) :
    NamesDay date.text :=
  namesDay_iff.mpr ⟨date, rfl⟩

/-- No text with the shape of a date begins with a blank. -/
theorem HasShape.not_beginsBlank
    {text shape : Text}
    (shaped : HasShape shape)
    (begins : shape <+: text) :
    ¬ text.BeginsBlank := by
  obtain ⟨c, first, digit⟩ := shaped.head?
  obtain ⟨later, rfl⟩ := begins
  rintro ⟨other, start, blank⟩
  obtain ⟨rest, rfl⟩ := List.head?_eq_some_iff.mp first
  cases start
  rw [Text.isBlank_eq_false_of_isDigit digit] at blank
  cases blank

end Date

namespace Value

theorem toDate_string_eq_ok_iff :
    toDate (.string raw) = .ok value ↔
      ∃ date : Date, value = .date date ∧ date.text <+: raw.shown.strip := by
  simp only [toDate, ← Date.ofShape?_leading?_eq_some_iff]
  cases (Date.leading? raw.shown.strip).bind Date.ofShape? with
  | none =>
      simp
  | some date =>
      simp [eq_comm]

end Value

namespace Definition

/--
A field for days takes a text exactly if it begins with a day of the calendar once the blanks
around it are gone, and then prints this day, whatever follows it.
-/
theorem coerce_day_iff
    (dated : definition.kind = .date)
    (raw : RawText) :
    ((∃ value, definition.coerce (.string raw) = .ok value) ↔
        ∃ day, Date.NamesDay day ∧ day <+: raw.shown.strip) ∧
      ∀ value day,
        definition.coerce (.string raw) = .ok value →
        Date.NamesDay day →
        day <+: raw.shown.strip →
        value.render = day.raw := by
  simp only [coerce, dated, Value.toDate_string_eq_ok_iff]
  constructor
  · constructor
    · rintro ⟨_, date, rfl, begins⟩
      exact ⟨date.text, date.namesDay_text, begins⟩
    · rintro ⟨day, names, begins⟩
      obtain ⟨date, rfl⟩ := Date.namesDay_iff.mp names
      exact ⟨.date date, date, rfl, begins⟩
  · rintro _ day ⟨date, rfl, stands⟩ names begins
    exact congrArg Text.raw (date.namesDay_text.unique stands names begins)

/-- A field for days that records when a contract was signed. -/
def signedDefinition : Definition :=
  ⟨"signed".toList, .date, "Signed".toList, true, none, none⟩

/-- A leap day is taken as it stands, with a time of another zone behind it. -/
theorem coerce_day_iff_ofLeapDay :
    signedDefinition.kind = .date ∧
      ∃ value,
        signedDefinition.coerce (.string "\t2024-02-29T23:30:00-12:00 ".toList) = .ok value ∧
          value.render = "2024-02-29".toList := by
  have stands :
      "2024-02-29".toList <+:
        Text.strip (RawText.shown "\t2024-02-29T23:30:00-12:00 ".toList) := by
    decide
  have names : Date.NamesDay "2024-02-29".toList :=
    Date.namesDay_iff.mpr ⟨⟨2024, 2, 29, by decide⟩, rfl⟩
  obtain ⟨taken, prints⟩ :=
    signedDefinition.coerce_day_iff rfl "\t2024-02-29T23:30:00-12:00 ".toList
  obtain ⟨value, coerced⟩ := taken.mpr ⟨_, names, stands⟩
  exact ⟨rfl, value, coerced, prints value _ coerced names stands⟩

/-- The century 1900 has no leap day. -/
example :
    signedDefinition.coerce (.string "1900-02-29".toList) = .error .notDate := by
  decide

/--
A text that a field for days takes is printed alike by a plain field exactly if no blank stands
in front of the day. Otherwise the plain field prints all of the text, its blanks included.
-/
theorem printed_alike_iff
    (dated : definition.kind = .date)
    (coerced : definition.coerce (.string raw) = .ok value) :
    ∃ inferred,
      Value.infer (.string raw) = .ok inferred ∧
        (inferred.render = value.render ↔ ¬ raw.shown.BeginsBlank) ∧
        (raw.shown.BeginsBlank → inferred.render = raw) := by
  simp only [coerce, dated, Value.toDate_string_eq_ok_iff] at coerced
  obtain ⟨date, rfl, stands⟩ := coerced
  have shaped : Date.HasShape date.text := ⟨_, _, _, date.spells_text⟩
  have whole (blank : raw.shown.BeginsBlank) : (Value.text raw).render = raw := by
    refine Value.render_text_eq_iff.mpr (.whole fun shape otherShaped begins => ?_)
    have shown := (RawText.prefix_shown_iff otherShaped.unmarked).mpr begins
    exact otherShaped.not_beginsBlank shown blank
  refine ⟨.text raw, rfl, ⟨?_, ?_⟩, whole⟩
  · intro alike blank
    have same : raw = date.text.raw := (whole blank).symm.trans alike
    rw [same, Text.shown_raw] at blank
    exact shaped.not_beginsBlank List.prefix_rfl blank
  · intro flush
    have begins := stands.trans raw.shown.strip_prefix_dropWhile
    rw [Text.dropWhile_isBlank_of_not_beginsBlank flush] at begins
    exact Value.render_text_eq_iff.mpr
      (.dated shaped ((RawText.prefix_shown_iff shaped.unmarked).mp begins))

/-- A day with a time behind it is printed alike by both fields. -/
theorem printed_alike_iff_ofTimestamp :
    signedDefinition.kind = .date ∧
      ∃ value inferred,
        signedDefinition.coerce (.string "0001-01-01 10:30".toList) = .ok value ∧
          Value.infer (.string "0001-01-01 10:30".toList) = .ok inferred ∧
          inferred.render = value.render := by
  have coerced :
      signedDefinition.coerce (.string "0001-01-01 10:30".toList) =
        .ok (.date ⟨1, 1, 1, by decide⟩) := by
    decide
  have flush : ¬ Text.BeginsBlank (RawText.shown "0001-01-01 10:30".toList) := by
    rintro ⟨c, first, blank⟩
    cases first
    exact absurd blank (by decide)
  obtain ⟨inferred, plain, alike, _⟩ := signedDefinition.printed_alike_iff rfl coerced
  exact ⟨rfl, _, inferred, coerced, plain, alike.mpr flush⟩

/-- A day with a blank in front of it is printed differently by the two fields. -/
theorem indented_day_differs :
    signedDefinition.kind = .date ∧
      ∃ value inferred,
        signedDefinition.coerce (.string " 2024-03-15".toList) = .ok value ∧
          Value.infer (.string " 2024-03-15".toList) = .ok inferred ∧
          value.render = "2024-03-15".toList ∧
          inferred.render = " 2024-03-15".toList ∧
          value.render ≠ inferred.render := by
  refine ⟨rfl, .date ⟨2024, 3, 15, by decide⟩, .text " 2024-03-15".toList, ?_, rfl, ?_, ?_, ?_⟩ <;>
    decide

end Definition

end ContractTemplates
