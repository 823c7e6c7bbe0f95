import ContractTemplates.Proofs.Placeholder.Cut

namespace ContractTemplates

/-!
# Filling a filled source

A filled source can have placeholders that stand neither in the source nor in a text
that was put in: the ends of the inserted texts are seams, and a placeholder can be put
together across one of them. If the inserted texts have no placeholders themselves,
these are the only ones that a second filling can find a value for, so that it changes
something exactly if it does: `substitute_again_eq_iff`.
-/

/-- Whether no placeholder is written in a text. -/
def PlaceholderFree (text : RawText) : Prop :=
  ∀ position name, ¬ OccursAt text position name

/-- Whether the text of no value has a placeholder. -/
def PlaceholderFreeValues (values : RawText → Option Value) : Prop :=
  ∀ name value, values name = some value → PlaceholderFree value.render

theorem placeholderFree_of_length_lt
    {text : RawText}
    (short : text.length < 5) :
    PlaceholderFree text := by
  intro position name occurs
  have bound := occurs.past_le_length
  have letters := List.length_pos_iff.mpr occurs.nonempty
  unfold pastPlaceholder at bound
  omega

theorem PlaceholderFree.not_within
    {text name : RawText}
    (free : PlaceholderFree text)
    (isName : IsName name) :
    ¬ (Segment.placeholder name).text <:+: text := by
  rintro ⟨before, after, rfl⟩
  exact free before.length name (isName.occursAt before after)

/-- Where no placeholder has a value, a source stays as it is. -/
theorem substitute_of_absent
    {source : RawText}
    {values : RawText → Option Value}
    (absent :
      ∀ position name, OccursAt source position name → values name = none) :
    substitute source values = source := by
  have kept :
      ∀ piece ∈ segments source,
        Segment.fill values piece = Segment.text piece := by
    intro piece member
    cases piece with
    | character c =>
        rfl
    | placeholder name =>
        obtain ⟨position, occurs⟩ := placeholder_mem_segments_iff.mp member
        simp only [Segment.fill, absent position name occurs]
  calc
    substitute source values
        = (segments source).flatMap Segment.text := by
          unfold substitute
          rw [List.flatMap_def, List.map_congr_left kept, List.flatMap_def]
    _ = source := flatMap_text_segmentsAfter 0 source

section Unchanged

variable
  {source : RawText}
  {values : RawText → Option Value}

/--
If what comes out ends in a segment and what follows it, the segment was not replaced:
the text put in for it would have to contain it.
-/
theorem fill_eq_text_of_append_eq
    {piece : Segment}
    {ahead rest filledRest : RawText}
    (free : PlaceholderFreeValues values)
    (named : ∀ name, piece = .placeholder name → IsName name)
    (restInPlace : ∀ excess, filledRest = excess ++ rest → excess = [])
    (same : Segment.fill values piece ++ filledRest = ahead ++ (piece.text ++ rest)) :
    Segment.fill values piece = piece.text := by
  cases piece with
  | character c =>
      rfl
  | placeholder name =>
      cases given : values name with
      | none =>
          simp only [Segment.fill, given]
      | some value =>
          exfalso
          apply (free name value given).not_within (named name rfl)
          simp only [Segment.fill, given] at same
          rw [← List.append_assoc] at same
          rcases List.append_eq_append_iff.mp same with
            ⟨excess, split, tail⟩ | ⟨later, split, _⟩
          · cases restInPlace excess tail
            rw [List.append_nil] at split
            exact ⟨ahead, [], by rw [List.append_nil, split]⟩
          · exact ⟨ahead, later, split.symm⟩

/--
If segments are filled with texts without placeholders and what comes out ends in what
was there, then nothing was replaced.
-/
theorem fill_eq_text_of_flatMap_eq
    {pieces : List Segment}
    {ahead : RawText}
    (free : PlaceholderFreeValues values)
    (named : ∀ name, .placeholder name ∈ pieces → IsName name)
    (same :
      pieces.flatMap (Segment.fill values) =
        ahead ++ pieces.flatMap Segment.text) :
    ahead = [] ∧
      ∀ piece ∈ pieces, Segment.fill values piece = piece.text := by
  induction pieces generalizing ahead with
  | nil =>
      constructor
      · simpa using same.symm
      · simp
  | cons piece rest inductionHypothesis =>
      have restUnchanged :
          ∀ excess,
            rest.flatMap (Segment.fill values) =
                excess ++ rest.flatMap Segment.text →
              excess = [] ∧
                ∀ other ∈ rest, Segment.fill values other = other.text :=
        fun excess =>
          inductionHypothesis fun name member =>
            named name (List.mem_cons_of_mem _ member)
      rw [List.flatMap_cons, List.flatMap_cons] at same
      have kept : Segment.fill values piece = piece.text := by
        apply fill_eq_text_of_append_eq free _ _ same
        · rintro name rfl
          exact named name List.mem_cons_self
        · intro excess tail
          exact (restUnchanged excess tail).1
      rw [kept] at same
      have lengths := congrArg List.length same
      simp only [List.length_append] at lengths
      -- What the later segments were is the end of what they became.
      have ending :
          rest.flatMap Segment.text <:+
            rest.flatMap (Segment.fill values) := by
        apply List.suffix_of_suffix_length_le
        · exact ⟨ahead ++ piece.text, by rw [List.append_assoc, ← same]⟩
        · exact List.suffix_append ..
        · omega
      obtain ⟨excess, tail⟩ := ending
      obtain ⟨rfl, restKept⟩ := restUnchanged excess tail.symm
      rw [← tail] at lengths
      constructor
      · apply List.length_eq_zero_iff.mp
        simp only [List.nil_append] at lengths
        omega
      · intro other member
        rcases List.mem_cons.mp member with rfl | member
        · exact kept
        · exact restKept other member

/-- Texts without placeholders leave exactly those sources as they are that name no value. -/
theorem substitute_eq_self_iff
    (free : PlaceholderFreeValues values) :
    substitute source values = source ↔
      ∀ position name, OccursAt source position name → values name = none := by
  constructor
  · intro same position name occurs
    have named :
        ∀ other, .placeholder other ∈ segments source → IsName other := by
      intro other member
      obtain ⟨place, again⟩ := placeholder_mem_segments_iff.mp member
      exact again.isName
    have whole :
        (segments source).flatMap (Segment.fill values) =
          [] ++ (segments source).flatMap Segment.text := by
      rw [List.nil_append]
      exact same.trans (flatMap_text_segmentsAfter 0 source).symm
    have kept :=
      (fill_eq_text_of_flatMap_eq free named whole).2 _
        (placeholder_mem_segments_iff.mpr ⟨position, occurs⟩)
    cases given : values name with
    | none =>
        rfl
    | some value =>
        simp only [Segment.fill, given] at kept
        have inserted := (free name value given).not_within occurs.isName
        rw [kept] at inserted
        exact absurd List.infix_rfl inserted
  · exact substitute_of_absent

end Unchanged

/-- From where to where in a filled source a text that was put in goes. -/
inductive Inserted
    (source : RawText)
    (values : RawText → Option Value) :
    Nat → Nat → Prop where
  | span
      {position : Nat}
      {name : RawText}
      {value : Value}
      (occurs : OccursAt source position name)
      (given : values name = some value) :
      Inserted source values
        (substitute (source.take position) values).length
        ((substitute (source.take position) values).length +
          value.render.length)

/-- Whether a placeholder at a position would go across an end of an inserted text. -/
def IsAssembled
    (source : RawText)
    (values : RawText → Option Value)
    (position : Nat)
    (name : RawText) :
    Prop :=
  ∃ start stop,
    Inserted source values start stop ∧
      (position < start ∧ start < pastPlaceholder position name ∨
        position < stop ∧ stop < pastPlaceholder position name)

section Parts

variable
  {before after name : RawText}
  {values : RawText → Option Value}
  {start stop position : Nat}

theorem Inserted.append_left
    (inserted : Inserted before values start stop)
    (after : RawText) :
    Inserted (before ++ after) values start stop := by
  cases inserted with
  | @span place other _ occurs given =>
      have bound := occurs.past_le_length
      have past := lt_pastPlaceholder place other
      have begins : OccursAt (before ++ after) place other :=
        (occursAt_append_left bound).mpr occurs
      have longer := Inserted.span begins given
      rw [List.take_append_of_le_length (by omega)] at longer
      exact longer

theorem Inserted.append_right
    (inserted : Inserted after values start stop)
    (apart : CutApart before after) :
    Inserted (before ++ after) values
      ((substitute before values).length + start)
      ((substitute before values).length + stop) := by
  cases inserted with
  | @span place other _ occurs given =>
      have later : OccursAt (before ++ after) (before.length + place) other :=
        occursAt_append_right.mpr occurs
      have longer := Inserted.span later given
      rw [List.take_length_add_append, substitute_append (apart.take place),
        List.length_append, Nat.add_assoc] at longer
      exact longer

theorem IsAssembled.append_left
    (assembled : IsAssembled before values position name)
    (after : RawText) :
    IsAssembled (before ++ after) values position name := by
  obtain ⟨start, stop, inserted, across⟩ := assembled
  exact ⟨start, stop, inserted.append_left after, across⟩

theorem IsAssembled.append_right
    (assembled : IsAssembled after values position name)
    (apart : CutApart before after) :
    IsAssembled (before ++ after) values
      ((substitute before values).length + position) name := by
  obtain ⟨start, stop, inserted, across⟩ := assembled
  refine ⟨_, _, inserted.append_right apart, ?_⟩
  unfold pastPlaceholder at across ⊢
  omega

end Parts

/--
A text is put in between what stands before a placeholder and what stands after it. A
placeholder of the result is in one of these two or goes across an end of the text.
-/
theorem isAssembled_of_parts
    {before after filled name : RawText}
    {values : RawText → Option Value}
    {position : Nat}
    {put : Value}
    (isName : IsName filled)
    (given : values filled = some put)
    (free : PlaceholderFree put.render)
    (assembledBefore :
      OccursAt (substitute before values) position name →
      IsAssembled before values position name)
    (assembledAfter :
      ∀ place,
        OccursAt (substitute after values) place name →
        IsAssembled after values place name)
    (occurs :
      OccursAt
        (substitute
          (before ++ (Segment.placeholder filled).text ++ after) values)
        position name) :
    IsAssembled (before ++ (Segment.placeholder filled).text ++ after)
      values position name := by
  have apart := isName.cutApart_after before after
  have upToHere :
      substitute (before ++ (Segment.placeholder filled).text) values =
        substitute before values ++ put.render := by
    rw [isName.substitute_append_placeholder]
    simp only [Segment.fill, given]
  have inserted := Inserted.span (isName.occursAt before after) given
  rw [List.append_assoc, List.take_left, ← List.append_assoc] at inserted
  rw [substitute_append apart, upToHere] at occurs
  rcases occurs.of_append with within | ⟨begun, ends⟩ | ⟨place, rfl, later⟩
  · rcases within.of_append with
      earlier | ⟨begun, ends⟩ | ⟨place, rfl, inside⟩
    · rw [List.append_assoc]
      exact (assembledBefore earlier).append_left _
    · exact ⟨_, _, inserted, .inl ⟨begun, ends⟩⟩
    · exact absurd inside (free place name)
  · rw [List.length_append] at begun ends
    exact ⟨_, _, inserted, .inr ⟨begun, ends⟩⟩
  · rw [← upToHere]
    exact (assembledAfter place later).append_right apart

/--
If no inserted text has a placeholder, each placeholder of a filled source that has a
value is assembled.
-/
theorem isAssembled_of_occursAt
    {source name : RawText}
    {values : RawText → Option Value}
    {position : Nat}
    {value : Value}
    (free : PlaceholderFreeValues values)
    (occurs : OccursAt (substitute source values) position name)
    (given : values name = some value) :
    IsAssembled source values position name := by
  -- What stands before and after a placeholder is shorter than the source.
  induction measure : source.length using Nat.strongRecOn
    generalizing source position with
  | ind size inductionHypothesis =>
      by_cases absent :
          ∀ place other, OccursAt source place other → values other = none
      · rw [substitute_of_absent absent] at occurs
        rw [absent position name occurs] at given
        cases given
      · simp only [Classical.not_forall] at absent
        obtain ⟨place, filled, here, valued⟩ := absent
        obtain ⟨put, found⟩ := Option.ne_none_iff_exists'.mp valued
        obtain ⟨before, after, rfl, _⟩ := here.exists_eq_append
        simp only [List.length_append, length_text_placeholder] at measure
        refine isAssembled_of_parts here.isName found (free filled put found)
          ?_ ?_ occurs
        · intro earlier
          exact inductionHypothesis before.length (by omega) earlier rfl
        · intro place later
          exact inductionHypothesis after.length (by omega) later rfl

/--
A second filling with texts that have no placeholders changes nothing exactly if every
placeholder that the first one assembled across an end of an inserted text is without
a value.
-/
theorem substitute_again_eq_iff
    {source : RawText}
    {values : RawText → Option Value}
    (free : PlaceholderFreeValues values) :
    substitute (substitute source values) values =
        substitute source values ↔
      ∀ position name,
        OccursAt (substitute source values) position name →
        IsAssembled source values position name →
        values name = none := by
  rw [substitute_eq_self_iff free]
  constructor
  · intro absent position name occurs _
    exact absent position name occurs
  · intro absent position name occurs
    cases given : values name with
    | none =>
        rfl
    | some value =>
        have assembled := isAssembled_of_occursAt free occurs given
        rw [absent position name occurs assembled] at given
        cases given

/-- A placeholder with braces around it that make another once it is filled. -/
def nestedSource : RawText :=
  "\x7b\x7b\x7b\x7ba\x7d\x7db\x7d\x7d".toList

/-- A value for the inner placeholder of `nestedSource` and perhaps one for the outer. -/
def nestedValues (outer : Option Value) (name : RawText) : Option Value :=
  if name = "a".toList then
    some (.text "x".toList)
  else if name = "xb".toList then
    outer
  else
    none

theorem placeholderFree_nestedValues
    {outer : Option Value}
    (short : ∀ value, outer = some value → value.render.length < 5) :
    PlaceholderFreeValues (nestedValues outer) := by
  intro name value given
  apply placeholderFree_of_length_lt
  unfold nestedValues at given
  split at given
  · cases given
    decide
  · split at given
    · exact short value given
    · cases given

/--
Without a value for the outer placeholder, the second filling leaves it as the first
has assembled it.
-/
theorem substitute_again_eq_iff_ofNested :
    PlaceholderFreeValues (nestedValues none) ∧
      OccursAt (substitute nestedSource (nestedValues none)) 0 "xb".toList ∧
      IsAssembled nestedSource (nestedValues none) 0 "xb".toList ∧
      nestedValues none "xb".toList = none := by
  have free : PlaceholderFreeValues (nestedValues none) := by
    apply placeholderFree_nestedValues
    intro value given
    cases given
  have inner : OccursAt nestedSource 2 "a".toList :=
    occursAt_iff_leadingPlaceholder?.mpr (by decide)
  have given : nestedValues none "a".toList = some (.text "x".toList) := by
    decide
  have occurs :
      OccursAt (substitute nestedSource (nestedValues none)) 0 "xb".toList :=
    occursAt_iff_leadingPlaceholder?.mpr (by decide)
  have assembled :
      IsAssembled nestedSource (nestedValues none) 0 "xb".toList :=
    ⟨_, _, .span inner given, .inl (by decide)⟩
  exact ⟨free, occurs, assembled,
    (substitute_again_eq_iff free).mp (by decide) 0 _ occurs assembled⟩

/-- With one it does, although neither value has a placeholder. -/
theorem nested_changes_again :
    PlaceholderFreeValues (nestedValues (some (.text "y".toList))) ∧
      substitute
          (substitute nestedSource (nestedValues (some (.text "y".toList))))
          (nestedValues (some (.text "y".toList))) ≠
        substitute nestedSource (nestedValues (some (.text "y".toList))) := by
  constructor
  · apply placeholderFree_nestedValues
    intro value given
    cases given
    decide
  · decide

end ContractTemplates
