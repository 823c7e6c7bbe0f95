import ContractTemplates.Placeholder

namespace ContractTemplates

/-!
# Occurrences of placeholders

A placeholder occurs at every position of a source at which two opening braces, a
name and two closing braces follow one another. `OccursAt` says so of all
positions at once, without a scan. Two occurrences never overlap: a name has no
braces, so no second pair of opening braces lies within an occurrence.
-/

/-- Whether a placeholder with a name is written at a position of a source. -/
structure OccursAt (source : RawText) (position : Nat) (name : RawText) : Prop where
  nonempty : name ≠ []
  word : ∀ c ∈ name, CodePoint.isWordCharacter c = true
  written : (Segment.placeholder name).text <+: source.drop position

/-- The position after a placeholder that is written at a position. -/
def pastPlaceholder (position : Nat) (name : RawText) : Nat :=
  position + (name.length + 4)

theorem lt_pastPlaceholder
    (position : Nat)
    (name : RawText) :
    position < pastPlaceholder position name := by
  unfold pastPlaceholder
  omega

theorem length_text_placeholder
    (name : RawText) :
    (Segment.placeholder name).text.length = name.length + 4 := by
  simp [Segment.text]

/-- A text begins with the placeholder that is read from its beginning. -/
theorem leadingPlaceholder?_eq_some_iff
    {source name : RawText} :
    leadingPlaceholder? source = some name ↔ OccursAt source 0 name := by
  constructor
  · intro found
    have shape := eq_append_of_leadingPlaceholder? found
    have written : (Segment.placeholder name).text <+: source.drop 0 := by
      rw [List.drop_zero, shape]
      exact List.prefix_append ..
    unfold leadingPlaceholder? at found
    split at found
    · next rest =>
        split at found
        · next c tail later nameShape afterShape =>
            cases found
            refine ⟨List.cons_ne_nil c tail, ?_, written⟩
            intro d member
            rw [← nameShape] at member
            exact List.all_eq_true.mp List.all_takeWhile d member
        · cases found
    · cases found
  · rintro ⟨nonempty, word, later, shape⟩
    obtain ⟨c, tail, rfl⟩ := List.exists_cons_of_ne_nil nonempty
    rw [List.drop_zero] at shape
    subst shape
    have ends : CodePoint.isWordCharacter (.char '}') = false := by
      decide
    have taken :
        (c :: tail ++ .char '}' :: .char '}' :: later).takeWhile
            CodePoint.isWordCharacter =
          c :: tail := by
      rw [List.takeWhile_append_of_pos word]
      simp [ends]
    have left :
        (c :: tail ++ .char '}' :: .char '}' :: later).dropWhile
            CodePoint.isWordCharacter =
          .char '}' :: .char '}' :: later := by
      rw [List.dropWhile_append_of_pos word]
      simp [ends]
    rw [List.cons_append] at taken left
    simp [Segment.text, leadingPlaceholder?, taken, left]

/-- A placeholder occurs at a position if what follows begins with it. -/
theorem occursAt_iff_leadingPlaceholder?
    {source name : RawText}
    {position : Nat} :
    OccursAt source position name ↔
      leadingPlaceholder? (source.drop position) = some name := by
  rw [leadingPlaceholder?_eq_some_iff]
  constructor
  · intro occurs
    exact ⟨occurs.nonempty, occurs.word, occurs.written⟩
  · intro occurs
    exact ⟨occurs.nonempty, occurs.word, occurs.written⟩

namespace OccursAt

variable
  {source name other : RawText}
  {position second : Nat}

theorem unique
    (occurs : OccursAt source position name)
    (again : OccursAt source position other) :
    name = other := by
  rw [occursAt_iff_leadingPlaceholder?] at occurs again
  exact Option.some.inj (occurs.symm.trans again)

/-- The characters of an occurrence are those of the placeholder. -/
theorem character
    (occurs : OccursAt source position name)
    {offset : Nat}
    (within : offset < name.length + 4) :
    source[position + offset]? = (Segment.placeholder name).text[offset]? := by
  obtain ⟨later, shape⟩ := occurs.written
  rw [← length_text_placeholder] at within
  rw [← List.getElem?_drop, ← shape, List.getElem?_append_left within]

theorem past_le_length
    (occurs : OccursAt source position name) :
    pastPlaceholder position name ≤ source.length := by
  have fits := occurs.written.length_le
  rw [length_text_placeholder, List.length_drop] at fits
  unfold pastPlaceholder
  omega

/-- No opening brace stands in an occurrence after the first two characters. -/
theorem not_opening
    (occurs : OccursAt source position name)
    {offset : Nat}
    (inside : 2 ≤ offset)
    (within : offset < name.length + 4) :
    source[position + offset]? ≠ some (.char '{') := by
  obtain ⟨place, rfl⟩ := Nat.exists_eq_add_of_le inside
  rw [occurs.character within]
  intro opening
  have standing : (name ++ [.char '}', .char '}'])[place]? = some (.char '{') := by
    rw [← opening, Nat.add_comm]
    rfl
  rcases List.mem_append.mp (List.mem_of_getElem? standing) with
    inName | closing
  · exact absurd (occurs.word (.char '{') inName) (by decide)
  · exact absurd closing (by decide)

/-- Two occurrences do not overlap. -/
theorem past_le_of_lt
    (occurs : OccursAt source position name)
    (again : OccursAt source second other)
    (later : position < second) :
    pastPlaceholder position name ≤ second := by
  unfold pastPlaceholder
  apply Nat.le_of_not_lt
  intro overlap
  obtain ⟨offset, rfl⟩ := Nat.exists_eq_add_of_lt later
  -- Both opening braces of the second would lie within the first.
  have firstBrace : source[position + (offset + 1)]? = some (.char '{') :=
    again.character (show 0 < other.length + 4 by omega)
  have secondBrace : source[position + (offset + 2)]? = some (.char '{') :=
    again.character (show 1 < other.length + 4 by omega)
  rcases Nat.eq_zero_or_pos offset with rfl | inside
  · exact occurs.not_opening (by omega) (by omega) secondBrace
  · exact occurs.not_opening (by omega) (by omega) firstBrace

end OccursAt

end ContractTemplates
