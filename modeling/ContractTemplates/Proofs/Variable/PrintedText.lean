import ContractTemplates.Proofs.Calendar.DayText
import ContractTemplates.Proofs.Placeholder.Filling
import ContractTemplates.Proofs.Text.Raw
import ContractTemplates.Proofs.Variable.Coercion

namespace ContractTemplates

/-!
# Texts as they are printed

A text is printed as it is, unless it begins with the shape of a date: of such a text these ten
characters are all that is printed. `Value.render_text_eq_iff` says so.

The rule holds for every text, and so for the option that a choice names. What stands in the
place of a choice is therefore the option or the date it begins with, and
`Definition.choice_printed` says when that is an option again.
-/

/-- The shape of a date is made of digits and hyphens. -/
theorem Date.HasShape.unmarked
    {shape : Text}
    (shaped : HasShape shape) :
    '\uFFFD' ∉ shape := by
  obtain ⟨_, _, _, rfl, _, _, _⟩ := shaped
  have other : ∀ digit : Fin 10, '\uFFFD' ≠ Nat.digitChar digit := by
    decide
  simp [other]

namespace Value

/-- What is printed of a text: the shape of a date at its start, and else the whole text. -/
inductive PrintedAs (text : RawText) : RawText → Prop where
  | dated
      {shape : Text}
      (shaped : Date.HasShape shape)
      (begins : shape.raw <+: text) :
      PrintedAs text shape
  | whole
      (undated : ∀ shape : Text, Date.HasShape shape → ¬ shape.raw <+: text) :
      PrintedAs text text

variable
  {text printed : RawText}
  {shape : Text}

/-- The shape of a date stands at the start of a raw text if it does so in what is shown. -/
theorem leading?_shown_eq_some_iff :
    Date.leading? text.shown = some shape ↔ Date.HasShape shape ∧ shape.raw <+: text := by
  rw [Date.leading?_eq_some_iff]
  exact and_congr_right fun shaped => RawText.prefix_shown_iff shaped.unmarked

theorem leading?_shown_eq_none_iff :
    Date.leading? text.shown = none ↔
      ∀ shape : Text, Date.HasShape shape → ¬ shape.raw <+: text := by
  simp only [Option.eq_none_iff_forall_ne_some, ne_eq, leading?_shown_eq_some_iff, not_and]

theorem render_text_eq_iff :
    render (.text text) = printed ↔ PrintedAs text printed := by
  rw [render]
  cases found : Date.leading? text.shown with
  | none =>
      have undated := leading?_shown_eq_none_iff.mp found
      constructor
      · rintro rfl
        exact .whole undated
      · rintro (⟨shaped, begins⟩ | _)
        · exact absurd begins (undated _ shaped)
        · rfl
  | some shape =>
      obtain ⟨shaped, begins⟩ := leading?_shown_eq_some_iff.mp found
      constructor
      · rintro rfl
        exact .dated shaped begins
      · rintro (⟨otherShaped, otherBegins⟩ | undated)
        · have other := leading?_shown_eq_some_iff.mpr ⟨otherShaped, otherBegins⟩
          rw [Option.some.inj (found.symm.trans other)]
          rfl
        · exact absurd begins (undated shape shaped)

/-- What is printed of a text is among some texts exactly if the date it begins with is, if any. -/
theorem PrintedAs.mem_iff
    {texts : List RawText}
    (printedAs : PrintedAs text printed)
    (member : text ∈ texts) :
    printed ∈ texts ↔
      ∀ shape : Text, Date.HasShape shape → shape.raw <+: text → shape.raw ∈ texts := by
  constructor
  · intro printedMember shape shaped begins
    have same : render (.text text) = shape.raw :=
      render_text_eq_iff.mpr (.dated shaped begins)
    rwa [← same, render_text_eq_iff.mpr printedAs]
  · intro dates
    rcases printedAs with ⟨shaped, begins⟩ | _
    · exact dates _ shaped begins
    · exact member

end Value

namespace Definition

/--
A choice names one of the options, and every placeholder of the choice is replaced by this option
or, if the option begins with the shape of a date, by the ten characters of that shape. What is
put in is an option itself exactly if such a date is among the options too.
-/
theorem choice_printed
    {definition : Definition}
    {datum : Datum}
    {value : Value}
    (choice : definition.kind = .select)
    (coerced : definition.coerce datum = .ok value) :
    ∃ option ∈ definition.choices, ∃ printed,
      datum = .string option ∧
        Value.PrintedAs option printed ∧
        (printed ∈ definition.choices ↔
          ∀ shape : Text,
            Date.HasShape shape → shape.raw <+: option → shape.raw ∈ definition.choices) ∧
        ∀ source values,
          values definition.name = some value →
          ∃ parts,
            Composes source values parts (substitute source values) ∧
              ∀ position,
                OccursAt source position definition.name →
                parts[position]? = some printed := by
  simp only [coerce, choice] at coerced
  obtain ⟨option, member, rfl, rfl⟩ := Value.exists_of_toOption coerced
  have printedAs := Value.render_text_eq_iff.mp (Eq.refl (Value.render (.text option)))
  refine ⟨option, member, _, rfl, printedAs, printedAs.mem_iff member, ?_⟩
  intro source values given
  have composes := composes_substitute source values
  exact ⟨_, composes, fun _ occurs => composes.part_of_occursAt occurs given⟩

/-- A choice of the day from which something runs. -/
def phaseDefinition : Definition :=
  ⟨"phase".toList, .select, "Phase".toList, true, none,
    some ["2024-03-15 onwards".toList, "at once".toList]⟩

/-- An option without a date at its start is put in as it is. -/
theorem choice_printed_ofUndated :
    ∃ value parts,
      phaseDefinition.kind = .select ∧
        phaseDefinition.coerce (.string "at once".toList) = .ok value ∧
        Text.raw "at once".toList ∈ phaseDefinition.choices ∧
        OccursAt "From \x7b\x7bphase\x7d\x7d.".toList 5 phaseDefinition.name ∧
        Composes "From \x7b\x7bphase\x7d\x7d.".toList (fun _ => some value) parts
          "From at once.".toList ∧
        parts[5]? = some (Text.raw "at once".toList) := by
  have coerced :
      phaseDefinition.coerce (.string "at once".toList) =
        .ok (.text "at once".toList) := by
    decide
  have occurs : OccursAt "From \x7b\x7bphase\x7d\x7d.".toList 5 phaseDefinition.name :=
    occursAt_iff_leadingPlaceholder?.mpr (by decide)
  have undated :
      ∀ shape : Text, Date.HasShape shape → ¬ shape.raw <+: Text.raw "at once".toList :=
    Value.leading?_shown_eq_none_iff.mp (by decide)
  obtain ⟨option, member, printed, named, printedAs, _, puts⟩ :=
    phaseDefinition.choice_printed rfl coerced
  cases named
  have whole : printed = "at once".toList := by
    rcases printedAs with ⟨shaped, begins⟩ | _
    · exact absurd begins (undated _ shaped)
    · rfl
  subst whole
  obtain ⟨parts, composes, put⟩ :=
    puts "From \x7b\x7bphase\x7d\x7d.".toList (fun _ => some (.text "at once".toList)) rfl
  exact ⟨_, parts, rfl, coerced, member, occurs, composes, put 5 occurs⟩

/-- Of an option that begins with a date only the date is put in, which is no option. -/
theorem dated_option_cut :
    Definition.check (Datum.ofJson phaseDefinition.toJson) = .ok phaseDefinition ∧
      phaseDefinition.kind = .select ∧
      ∃ value,
        phaseDefinition.coerce (.string "2024-03-15 onwards".toList) = .ok value ∧
          substitute "\x7b\x7bphase\x7d\x7d".toList
              (fun name => if name = phaseDefinition.name then some value else none) =
            "2024-03-15".toList ∧
          Text.raw "2024-03-15".toList ∉ phaseDefinition.choices := by
  refine ⟨rfl, rfl, .text "2024-03-15 onwards".toList, ?_, ?_, ?_⟩ <;>
    decide

end Definition

end ContractTemplates
