import ContractTemplates.Proofs.Placeholder.Cut
import ContractTemplates.Proofs.Validation.Blame
import ContractTemplates.Proofs.Variable.Definition

namespace ContractTemplates

/-!
# Declared names and placeholders

A definition may be declared under exactly the names of limited length that can stand between
the braces of a placeholder: `Definition.names_are_placeholders`. So every declared field can
be filled in from a template, and no text is a name on one side only, whatever characters or
braces it has.
-/

/-- Whether a string between braces is read as one placeholder with this string as its name. -/
def IsPlaceholderName (name : RawText) : Prop :=
  segments (Segment.placeholder name).text = [.placeholder name]

theorem isPlaceholderName_iff
    {name : RawText} :
    IsPlaceholderName name ↔ IsName name := by
  constructor
  · intro alone
    have member : .placeholder name ∈ segments (Segment.placeholder name).text := by
      rw [alone]
      exact List.mem_singleton_self _
    obtain ⟨position, occurs⟩ := placeholder_mem_segments_iff.mp member
    exact occurs.isName
  · exact IsName.segments_text

/-- A placeholder by itself is filled with the text of its value and nothing else. -/
theorem IsPlaceholderName.substitute
    {name : RawText}
    (alone : IsPlaceholderName name)
    (value : Value) :
    substitute (Segment.placeholder name).text (Entries.find? [(name, value)]) =
      value.render := by
  unfold ContractTemplates.substitute
  rw [alone]
  simp [Segment.fill, Entries.find?]

namespace Validation

theorem isName_iff
    {name : Text} :
    isName name = true ↔ IsName name := by
  have words :
      (∀ point ∈ name.raw, point.isWordCharacter = true) ↔
        ∀ c ∈ name, Text.isWordCharacter c = true := by
    simp [Text.raw, CodePoint.isWordCharacter, CodePoint.char?]
  constructor
  · intro accepted
    simp only [isName, Bool.and_eq_true, Bool.not_eq_true', List.isEmpty_eq_false_iff,
      List.all_eq_true] at accepted
    exact ⟨mt Text.raw_eq_nil.mp accepted.1, words.mpr accepted.2⟩
  · rintro ⟨nonempty, word⟩
    simp only [isName, Bool.and_eq_true, Bool.not_eq_true', List.isEmpty_eq_false_iff,
      List.all_eq_true]
    exact ⟨mt Text.raw_eq_nil.mpr nonempty, words.mp word⟩

/-- What consists of word characters is a text. -/
theorem exists_text_of_isName
    {name : RawText}
    (isName : IsName name) :
    ∃ text : Text, name = text := by
  rw [← RawText.isText_iff, RawText.isText, List.all_eq_true]
  intro point member
  have word := isName.word point member
  cases point with
  | char c =>
      rfl
  | half offset =>
      exact absurd word Bool.false_ne_true

/-- A string is accepted as a name without an issue exactly if it is a short name. -/
theorem issues_name_eq_nil_iff
    {limit : Nat}
    {raw : RawText} :
    (name limit (.string raw)).issues = [] ↔ raw.length ≤ limit ∧ IsName raw := by
  have steps :
      name limit (.string raw) =
        ((whole raw).bind fun text =>
          if limit < text.length then
            Checked.fail (.textTooLong limit)
          else
            .ok text).bind fun text =>
              if isName text then .ok text else Checked.fail .textNotName :=
    rfl
  constructor
  · intro none
    rw [steps] at none
    unfold whole at none
    split at none
    next text found =>
      obtain rfl := RawText.text?_eq_some_iff.mp found
      rw [Text.length_raw, ← isName_iff]
      by_cases long : limit < text.length
      · simp [Except.bind, long, Checked.fail, Checked.issues] at none
      · by_cases accepted : isName text = true
        · exact ⟨Nat.le_of_not_lt long, accepted⟩
        · simp [Except.bind, long, accepted, Checked.fail, Checked.issues] at none
    next broken =>
      simp [Except.bind, Checked.fail, Checked.issues] at none
  · rintro ⟨short, isName⟩
    obtain ⟨text, rfl⟩ := exists_text_of_isName isName
    rw [Text.length_raw] at short
    rw [Definition.name_check (isName_iff.mpr isName) short]
    rfl

end Validation

namespace Definition

variable
  {entries : List (Datum × Datum)}
  {name : RawText}

/-- That a choice lacks its options is said of the definition as a whole. -/
theorem blames_check_iff
    {field : Text} :
    (check (.map entries)).Blames field ↔ (checkFields entries).Blames field := by
  have steps :
      check (.map entries) = (checkFields entries).bind checkChoices :=
    rfl
  rw [steps]
  cases found : checkFields entries with
  | error issues =>
      exact Iff.rfl
  | ok definition =>
      have unblamed : ¬ (checkChoices definition).Blames field := by
        rintro ⟨issue, member, path⟩
        unfold checkChoices at member
        split at member
        next lacking =>
          rw [List.mem_singleton.mp member] at path
          cases path
        next complete =>
          cases member
      refine ⟨fun blamed => (unblamed blamed).elim, ?_⟩
      rintro ⟨issue, member, path⟩
      cases member

/-- Only the check of the name says anything about the name. -/
theorem blames_name_iff :
    (checkFields entries).Blames "name".toList ↔
      (Validation.required ["name".toList] (Validation.name nameLimit) entries).Blames
        "name".toList := by
  have kind :
      ¬ (Validation.required ["type".toList] VariableKind.check entries).Blames
        "name".toList :=
    Validation.not_blames_required (by decide) (by decide) _ _
  have label :
      ¬ (Validation.required ["label".toList] Validation.text entries).Blames
        "name".toList :=
    Validation.not_blames_required (by decide) (by decide) _ _
  have required :
      ¬ (Validation.optional ["required".toList] false Validation.boolean
        entries).Blames "name".toList :=
    Validation.not_blames_optional (by decide) _ _ _
  have defaultValue :
      ¬ (Validation.optional ["defaultValue".toList, "default_value".toList] none
        DefaultValue.check entries).Blames "name".toList :=
    Validation.not_blames_optional (by decide) _ _ _
  have options :
      ¬ (Validation.optional ["options".toList] none checkOptions entries).Blames
        "name".toList :=
    Validation.not_blames_optional (by decide) _ _ _
  simp only [checkFields, Checked.blames_map_iff, Checked.blames_both_iff, kind, label,
    required, defaultValue, options, or_false]

/-- A name is blamed exactly if it is too long or does not stand in a placeholder. -/
theorem blames_given_name_iff
    (given : Datum.entry? "name".toList entries = some (.string name)) :
    (check (.map entries)).Blames "name".toList ↔
      ¬ (name.length ≤ nameLimit ∧ IsPlaceholderName name) := by
  rw [blames_check_iff, blames_name_iff, Validation.blames_required_iff given, ne_eq,
    Validation.issues_name_eq_nil_iff, isPlaceholderName_iff]

theorem IsValid.isPlaceholderName
    {definition : Definition}
    (valid : definition.IsValid) :
    definition.name.length ≤ nameLimit ∧ IsPlaceholderName definition.name := by
  obtain ⟨name, same, isName, short⟩ := valid.isNamed
  rw [same, Text.length_raw]
  exact ⟨short, isPlaceholderName_iff.mpr (Validation.isName_iff.mp isName)⟩

/-- Some data are accepted as a definition of a name exactly if the name is a short one. -/
theorem exists_check_iff :
    (∃ datum definition, check datum = .ok definition ∧ definition.name = name) ↔
      name.length ≤ nameLimit ∧ IsPlaceholderName name := by
  constructor
  · rintro ⟨datum, definition, accepted, rfl⟩
    exact (isValid_of_check accepted).isPlaceholderName
  · rintro ⟨short, alone⟩
    have isName := isPlaceholderName_iff.mp alone
    obtain ⟨text, rfl⟩ := Validation.exists_text_of_isName isName
    rw [Text.length_raw] at short
    have valid :
        IsValid ⟨text, .text, text, false, none, none⟩ :=
      { isNamed := ⟨text, rfl, Validation.isName_iff.mpr isName, short⟩
        hasChoices := by
          intro select
          cases select }
    exact ⟨_, _, valid.check_toJson, rfl⟩

/--
A string is not blamed as the name of a definition exactly if it is short enough and, between
braces, makes one placeholder that bears it; then there is a definition of this name. The
placeholder of an accepted definition is filled with what the given value prints.
-/
theorem names_are_placeholders
    (name : RawText) :
    (∀ entries,
      Datum.entry? "name".toList entries = some (.string name) →
        ((check (.map entries)).Blames "name".toList ↔
          ¬ (name.length ≤ nameLimit ∧ IsPlaceholderName name))) ∧
      ((∃ datum definition, check datum = .ok definition ∧ definition.name = name) ↔
        name.length ≤ nameLimit ∧ IsPlaceholderName name) ∧
      ∀ datum definition,
        check datum = .ok definition →
          definition.name = name →
            ∀ value : Value,
              substitute (Segment.placeholder name).text
                  (Entries.find? [(name, value)]) =
                value.render := by
  refine ⟨fun entries given => blames_given_name_iff given, exists_check_iff, ?_⟩
  rintro datum definition accepted rfl value
  exact (isValid_of_check accepted).isPlaceholderName.2.substitute value

end Definition

end ContractTemplates
