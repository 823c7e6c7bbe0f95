import ContractTemplates.Proofs.Placeholder.Occurrence

namespace ContractTemplates

/-!
# Cutting a source

A source that is cut where no placeholder goes across has the segments of its two
sides, one after the other, and is filled side by side: `substitute_append`. The two
ends of a placeholder are such places, because placeholders do not overlap, so each
placeholder leaves two shorter sources that are filled by themselves.
-/

/-- Whether a text can stand between the braces of a placeholder. -/
structure IsName (name : RawText) : Prop where
  nonempty : name ≠ []
  word : ∀ c ∈ name, CodePoint.isWordCharacter c = true

namespace OccursAt

variable
  {source name : RawText}
  {position : Nat}

theorem isName
    (occurs : OccursAt source position name) :
    IsName name :=
  ⟨occurs.nonempty, occurs.word⟩

theorem exists_eq_append
    (occurs : OccursAt source position name) :
    ∃ before after,
      source = before ++ (Segment.placeholder name).text ++ after ∧
        before.length = position := by
  obtain ⟨after, shape⟩ := occurs.written
  have past := occurs.past_le_length
  have bound := lt_pastPlaceholder position name
  refine ⟨source.take position, after, ?_, ?_⟩
  · rw [List.append_assoc, shape, List.take_append_drop]
  · rw [List.length_take]
    omega

end OccursAt

theorem IsName.occursAt
    {name : RawText}
    (isName : IsName name)
    (before after : RawText) :
    OccursAt (before ++ (Segment.placeholder name).text ++ after)
      before.length name where
  nonempty := isName.nonempty
  word := isName.word
  written := by simp

/-- In the later part of a text the placeholders of this part occur. -/
theorem occursAt_append_right
    {before after name : RawText}
    {position : Nat} :
    OccursAt (before ++ after) (before.length + position) name ↔
      OccursAt after position name := by
  have same :
      (before ++ after).drop (before.length + position) =
        after.drop position := by
    simp [List.drop_append]
  constructor
  · rintro ⟨nonempty, word, written⟩
    exact ⟨nonempty, word, same ▸ written⟩
  · rintro ⟨nonempty, word, written⟩
    exact ⟨nonempty, word, same ▸ written⟩

/-- In the earlier part of a text those placeholders occur that end in this part. -/
theorem occursAt_append_left
    {before after name : RawText}
    {position : Nat}
    (within : pastPlaceholder position name ≤ before.length) :
    OccursAt (before ++ after) position name ↔
      OccursAt before position name := by
  unfold pastPlaceholder at within
  have begins :
      (before ++ after).drop position = before.drop position ++ after :=
    List.drop_append_of_le_length (by omega)
  constructor
  · rintro ⟨nonempty, word, written⟩
    refine ⟨nonempty, word, ?_⟩
    apply List.prefix_of_prefix_length_le written
    · rw [begins]
      exact List.prefix_append ..
    · rw [length_text_placeholder, List.length_drop]
      omega
  · rintro ⟨nonempty, word, written⟩
    refine ⟨nonempty, word, ?_⟩
    rw [begins]
    exact written.trans (List.prefix_append ..)

/--
A placeholder of two texts side by side lies in the first, across the cut between
them, or in the second.
-/
theorem OccursAt.of_append
    {before after name : RawText}
    {position : Nat}
    (occurs : OccursAt (before ++ after) position name) :
    OccursAt before position name ∨
      position < before.length ∧
          before.length < pastPlaceholder position name ∨
        ∃ place,
          position = before.length + place ∧ OccursAt after place name := by
  rcases Nat.lt_or_ge position before.length with begun | beyond
  · rcases Nat.lt_or_ge before.length (pastPlaceholder position name) with
      across | within
    · exact .inr (.inl ⟨begun, across⟩)
    · exact .inl ((occursAt_append_left within).mp occurs)
  · obtain ⟨place, rfl⟩ := Nat.exists_eq_add_of_le beyond
    exact .inr (.inr ⟨place, rfl, occursAt_append_right.mp occurs⟩)

/-- Whether no placeholder goes across the cut between two parts of a source. -/
def CutApart (before after : RawText) : Prop :=
  ∀ position name,
    OccursAt (before ++ after) position name →
    position < before.length →
    pastPlaceholder position name ≤ before.length

theorem CutApart.tail
    {c : CodePoint}
    {before after : RawText}
    (apart : CutApart (c :: before) after) :
    CutApart before after := by
  intro position name occurs begun
  have shifted : OccursAt ([c] ++ (before ++ after)) (1 + position) name :=
    occursAt_append_right.mpr occurs
  have bound := apart (1 + position) name shifted (by simp; omega)
  simp only [pastPlaceholder, List.length_cons] at bound ⊢
  omega

theorem CutApart.take
    {before after : RawText}
    (apart : CutApart before after)
    (count : Nat) :
    CutApart before (after.take count) := by
  intro position name occurs begun
  have longer :
      OccursAt (before ++ after.take count ++ after.drop count)
        position name :=
    (occursAt_append_left occurs.past_le_length).mpr occurs
  rw [List.append_assoc, List.take_append_drop] at longer
  exact apart position name longer begun

/-- Nothing is read of a placeholder that begins a part and ends beyond the cut. -/
theorem CutApart.leadingPlaceholder?
    {before after : RawText}
    (apart : CutApart before after)
    (nonempty : before ≠ []) :
    leadingPlaceholder? (before ++ after) = leadingPlaceholder? before := by
  have begun := List.length_pos_iff.mpr nonempty
  apply Option.ext
  intro name
  rw [leadingPlaceholder?_eq_some_iff, leadingPlaceholder?_eq_some_iff]
  constructor
  · intro occurs
    exact (occursAt_append_left (apart 0 name occurs begun)).mp occurs
  · intro occurs
    exact (occursAt_append_left occurs.past_le_length).mpr occurs

theorem segmentsAfter_append
    {skip : Nat}
    {before after : RawText}
    (apart : CutApart before after)
    (within : skip ≤ before.length) :
    segmentsAfter skip (before ++ after) =
      segmentsAfter skip before ++ segments after := by
  induction before generalizing skip with
  | nil =>
      cases Nat.le_zero.mp within
      rfl
  | cons c rest inductionHypothesis =>
      cases skip with
      | succ skip =>
          exact inductionHypothesis apart.tail (Nat.le_of_succ_le_succ within)
      | zero =>
          have same := apart.leadingPlaceholder? (List.cons_ne_nil c rest)
          rw [List.cons_append] at same ⊢
          cases found : leadingPlaceholder? (c :: rest) with
          | some name =>
              have occurs := leadingPlaceholder?_eq_some_iff.mp found
              have bound := occurs.past_le_length
              simp only [pastPlaceholder, List.length_cons] at bound
              simp only [segmentsAfter, same, found, List.cons_append]
              rw [inductionHypothesis apart.tail (by omega)]
          | none =>
              simp only [segmentsAfter, same, found, List.cons_append]
              rw [inductionHypothesis apart.tail (Nat.zero_le _)]

theorem segments_append
    {before after : RawText}
    (apart : CutApart before after) :
    segments (before ++ after) = segments before ++ segments after :=
  segmentsAfter_append apart (Nat.zero_le _)

/-- A source is filled side by side where no placeholder goes across. -/
theorem substitute_append
    {before after : RawText}
    (apart : CutApart before after)
    (values : RawText → Option Value) :
    substitute (before ++ after) values =
      substitute before values ++ substitute after values := by
  unfold substitute
  rw [segments_append apart, List.flatMap_append]

theorem segmentsAfter_eq_segments_drop
    (skip : Nat)
    (source : RawText) :
    segmentsAfter skip source = segments (source.drop skip) := by
  induction source generalizing skip with
  | nil =>
      simp [segments, segmentsAfter]
  | cons c rest inductionHypothesis =>
      cases skip with
      | zero =>
          rfl
      | succ skip =>
          exact inductionHypothesis skip

namespace IsName

variable {name : RawText}

/-- No placeholder goes across the beginning of another. -/
theorem cutApart_before
    (isName : IsName name)
    (before after : RawText) :
    CutApart before ((Segment.placeholder name).text ++ after) := by
  intro position other occurs begun
  rw [← List.append_assoc] at occurs
  exact occurs.past_le_of_lt (isName.occursAt before after) begun

/-- No placeholder goes across the end of another. -/
theorem cutApart_after
    (isName : IsName name)
    (before after : RawText) :
    CutApart (before ++ (Segment.placeholder name).text) after := by
  have here := isName.occursAt before after
  have ends :
      (before ++ (Segment.placeholder name).text).length =
        pastPlaceholder before.length name := by
    rw [List.length_append, length_text_placeholder, pastPlaceholder]
  intro position other occurs begun
  rw [ends] at begun ⊢
  rcases Nat.lt_trichotomy position before.length with earlier | rfl | later
  · have bound := occurs.past_le_of_lt here earlier
    have past := lt_pastPlaceholder before.length name
    omega
  · cases here.unique occurs
    exact Nat.le_refl _
  · have bound := here.past_le_of_lt occurs later
    omega

theorem segments_text
    (isName : IsName name) :
    segments (Segment.placeholder name).text = [.placeholder name] := by
  have alone := isName.occursAt [] []
  rw [List.nil_append, List.append_nil] at alone
  have found := leadingPlaceholder?_eq_some_iff.mpr alone
  simp only [Segment.text, List.cons_append] at found ⊢
  simp only [segments, segmentsAfter, found]
  rw [segmentsAfter_eq_segments_drop]
  simp [segments, segmentsAfter]

theorem segments_append_placeholder
    (isName : IsName name)
    (before : RawText) :
    segments (before ++ (Segment.placeholder name).text) =
      segments before ++ [.placeholder name] := by
  have apart := isName.cutApart_before before []
  rw [List.append_nil] at apart
  rw [segments_append apart, isName.segments_text]

/-- A placeholder at the end of a source is filled in its place. -/
theorem substitute_append_placeholder
    (isName : IsName name)
    (before : RawText)
    (values : RawText → Option Value) :
    substitute (before ++ (Segment.placeholder name).text) values =
      substitute before values ++
        Segment.fill values (.placeholder name) := by
  unfold substitute
  rw [isName.segments_append_placeholder]
  simp only [List.flatMap_append, List.flatMap_cons, List.flatMap_nil,
    List.append_nil]

end IsName

theorem exists_occursAt_of_mem_segmentsAfter
    {skip : Nat}
    {source name : RawText}
    (member : .placeholder name ∈ segmentsAfter skip source) :
    ∃ position, OccursAt source position name := by
  induction source generalizing skip with
  | nil =>
      simp [segmentsAfter] at member
  | cons c rest inductionHypothesis =>
      -- What occurs in the rest occurs one position later in the whole.
      have later :
          ∀ {skip},
            .placeholder name ∈ segmentsAfter skip rest →
            ∃ position, OccursAt (c :: rest) position name := by
        intro skip member
        obtain ⟨position, occurs⟩ := inductionHypothesis member
        have shifted : OccursAt ([c] ++ rest) ([c].length + position) name :=
          occursAt_append_right.mpr occurs
        exact ⟨_, shifted⟩
      cases skip with
      | succ skip =>
          exact later member
      | zero =>
          cases found : leadingPlaceholder? (c :: rest) with
          | some leading =>
              simp only [segmentsAfter, found, List.mem_cons] at member
              rcases member with same | member
              · cases same
                exact ⟨0, leadingPlaceholder?_eq_some_iff.mp found⟩
              · exact later member
          | none =>
              simp only [segmentsAfter, found, List.mem_cons] at member
              rcases member with same | member
              · cases same
              · exact later member

/-- The placeholders among the segments of a source are those that occur in it. -/
theorem placeholder_mem_segments_iff
    {source name : RawText} :
    .placeholder name ∈ segments source ↔
      ∃ position, OccursAt source position name := by
  constructor
  · exact exists_occursAt_of_mem_segmentsAfter
  · rintro ⟨position, occurs⟩
    obtain ⟨before, after, rfl, -⟩ := occurs.exists_eq_append
    have isName := occurs.isName
    rw [segments_append (isName.cutApart_after before after),
      isName.segments_append_placeholder]
    simp

end ContractTemplates
