import ContractTemplates.Proofs.Placeholder.Cut
import Mathlib.Data.List.Chain

namespace ContractTemplates

/-!
# Filling in stages

Where two opening braces always open a placeholder and no inserted text has an opening
brace, nothing new is put together at the ends of the inserted texts. The segments of
the filled source are then those of the source with characters in the places of the
replaced placeholders, `segments_substitute`, so the other placeholders can be filled
later just as well as at once: `substitute_in_stages`.
-/

/-- Whether two opening braces side by side always open a placeholder. -/
def OpensOnlyPlaceholders (source : RawText) : Prop :=
  ∀ position,
    [.char '{', .char '{'] <+: source.drop position →
    ∃ name, OccursAt source position name

/-- Whether the text of no value has an opening brace. -/
def OpensNothing (values : RawText → Option Value) : Prop :=
  ∀ name value, values name = some value → .char '{' ∉ value.render

theorem opensOnlyPlaceholders_iff
    {source : RawText} :
    OpensOnlyPlaceholders source ↔
      ∀ position < source.length,
        List.isPrefixOf [.char '{', .char '{'] (source.drop position) →
        (leadingPlaceholder? (source.drop position)).isSome := by
  constructor
  · intro opens position _ opening
    obtain ⟨name, occurs⟩ := opens position (List.isPrefixOf_iff_prefix.mp opening)
    rw [occursAt_iff_leadingPlaceholder?.mp occurs]
    rfl
  · intro opens position opening
    have within : position < source.length := by
      have fits := opening.length_le
      simp only [List.length_cons, List.length_nil, List.length_drop] at fits
      omega
    have found := opens position within (List.isPrefixOf_iff_prefix.mpr opening)
    obtain ⟨name, found⟩ := Option.isSome_iff_exists.mp found
    exact ⟨name, occursAt_iff_leadingPlaceholder?.mpr found⟩

instance (source : RawText) : Decidable (OpensOnlyPlaceholders source) :=
  decidable_of_iff' _ opensOnlyPlaceholders_iff

theorem OpensOnlyPlaceholders.tail
    {c : CodePoint}
    {rest : RawText}
    (opens : OpensOnlyPlaceholders (c :: rest)) :
    OpensOnlyPlaceholders rest := by
  intro position opening
  obtain ⟨name, occurs⟩ := opens (position + 1) opening
  have shifted : OccursAt ([c] ++ rest) ([c].length + position) name := by
    rw [List.length_singleton, Nat.add_comm]
    exact occurs
  exact ⟨name, occursAt_append_right.mp shifted⟩

/-- A placeholder begins with two opening braces. -/
theorem opening_of_leadingPlaceholder?
    {c : CodePoint}
    {rest name : RawText}
    (found : leadingPlaceholder? (c :: rest) = some name) :
    c = .char '{' ∧ rest.head? = some (.char '{') := by
  have shape := eq_append_of_leadingPlaceholder? found
  simp only [Segment.text, List.cons_append, List.cons.injEq] at shape
  obtain ⟨rfl, shape⟩ := shape
  rw [shape]
  exact ⟨rfl, rfl⟩

/-- A character without another opening brace after it is a segment of its own. -/
theorem segments_cons_of_not_opening
    {c : CodePoint}
    {rest : RawText}
    (apart : c = .char '{' → rest.head? ≠ some (.char '{')) :
    segments (c :: rest) = .character c :: segments rest := by
  cases found : leadingPlaceholder? (c :: rest) with
  | some name =>
      obtain ⟨brace, another⟩ := opening_of_leadingPlaceholder? found
      exact absurd another (apart brace)
  | none =>
      simp only [segments, segmentsAfter, found]

theorem segments_append_of_not_opening
    {before : RawText}
    (plain : .char '{' ∉ before)
    (after : RawText) :
    segments (before ++ after) = before.map .character ++ segments after := by
  induction before with
  | nil =>
      rfl
  | cons c rest inductionHypothesis =>
      obtain ⟨noBrace, others⟩ := not_or.mp (mt List.mem_cons.mpr plain)
      have apart : c = .char '{' → (rest ++ after).head? ≠ some (.char '{') :=
        fun brace => absurd brace.symm noBrace
      rw [List.cons_append, segments_cons_of_not_opening apart,
        inductionHypothesis others]
      rfl

namespace Segment

/-- Whether a segment that is an opening brace has no other opening brace after it. -/
def StandsApart (piece next : Segment) : Prop :=
  piece = .character (.char '{') → next.text.head? ≠ some (.char '{')

/-- What a segment becomes in a filled source. -/
def filled (values : RawText → Option Value) : Segment → List Segment
  | character c => [character c]
  | placeholder name =>
      match values name with
      | some value => value.render.map character
      | none => [placeholder name]

/-- A segment that is filled twice takes the first value that there is. -/
theorem flatMap_fill_filled
    (first second : RawText → Option Value)
    (piece : Segment) :
    (piece.filled first).flatMap (fill second) =
      fill (fun name => (first name).or (second name)) piece := by
  cases piece with
  | character c =>
      rfl
  | placeholder name =>
      cases given : first name with
      | none =>
          simp [filled, fill, given]
      | some value =>
          simp [filled, fill, given, List.flatMap_map]

end Segment

/-- Where two opening braces always open a placeholder, no single one precedes another. -/
theorem isChain_segmentsAfter
    {skip : Nat}
    {source : RawText}
    (opens : OpensOnlyPlaceholders source) :
    (segmentsAfter skip source).IsChain Segment.StandsApart := by
  induction source generalizing skip with
  | nil =>
      simp [segmentsAfter]
  | cons c rest inductionHypothesis =>
      cases skip with
      | succ skip =>
          exact inductionHypothesis opens.tail
      | zero =>
          cases found : leadingPlaceholder? (c :: rest) with
          | some name =>
              simp only [segmentsAfter, found, List.isChain_cons]
              refine ⟨?_, inductionHypothesis opens.tail⟩
              intro next _ brace
              cases brace
          | none =>
              simp only [segmentsAfter, found, List.isChain_cons]
              refine ⟨?_, inductionHypothesis opens.tail⟩
              intro next member brace another
              have written := flatMap_text_segmentsAfter 0 rest
              obtain ⟨others, split⟩ := List.head?_eq_some_iff.mp member
              obtain ⟨later, begins⟩ := List.head?_eq_some_iff.mp another
              rw [split, List.flatMap_cons, begins, List.drop_zero] at written
              cases brace
              -- The two braces side by side would open a placeholder here.
              have opening : [.char '{', .char '{'] <+: (.char '{' :: rest).drop 0 := by
                rw [← written]
                exact List.prefix_append [CodePoint.char '{', .char '{'] _
              obtain ⟨name, occurs⟩ := opens 0 opening
              rw [leadingPlaceholder?_eq_some_iff.mpr occurs] at found
              cases found

/-- What filled segments begin with, where a single opening brace stands before them. -/
theorem head?_flatMap_fill_ne_brace
    {pieces : List Segment}
    {values : RawText → Option Value}
    (apart :
      ∀ next ∈ pieces.head?,
        Segment.StandsApart (.character (.char '{')) next) :
    (pieces.flatMap (Segment.fill values)).head? ≠ some (.char '{') := by
  cases pieces with
  | nil =>
      simp
  | cons next rest =>
      have different := apart next rfl rfl
      cases next with
      | character c =>
          exact different
      | placeholder name =>
          exact absurd rfl different

/--
Segments that are filled with texts without opening braces are found again, those that
were replaced as characters.
-/
theorem segments_flatMap_fill
    {pieces : List Segment}
    {values : RawText → Option Value}
    (plain : OpensNothing values)
    (named : ∀ name, .placeholder name ∈ pieces → IsName name)
    (apart : pieces.IsChain Segment.StandsApart) :
    segments (pieces.flatMap (Segment.fill values)) =
      pieces.flatMap (Segment.filled values) := by
  induction pieces with
  | nil =>
      rfl
  | cons piece rest inductionHypothesis =>
      obtain ⟨here, later⟩ := List.isChain_cons.mp apart
      have others :=
        inductionHypothesis
          (fun name member => named name (List.mem_cons_of_mem _ member)) later
      rw [List.flatMap_cons, List.flatMap_cons, ← others]
      cases piece with
      | character c =>
          apply segments_cons_of_not_opening
          rintro rfl
          exact head?_flatMap_fill_ne_brace here
      | placeholder name =>
          cases given : values name with
          | some value =>
              simp only [Segment.fill, Segment.filled, given]
              exact segments_append_of_not_opening (plain name value given) _
          | none =>
              have isName := named name List.mem_cons_self
              have cut :=
                isName.cutApart_after [] (rest.flatMap (Segment.fill values))
              rw [List.nil_append] at cut
              simp only [Segment.fill, Segment.filled, given]
              rw [segments_append cut, isName.segments_text]

/--
The segments of a filled source are those of the source, with the characters of the
values in the places of the placeholders that have one.
-/
theorem segments_substitute
    {source : RawText}
    {values : RawText → Option Value}
    (opens : OpensOnlyPlaceholders source)
    (plain : OpensNothing values) :
    segments (substitute source values) =
      (segments source).flatMap (Segment.filled values) := by
  apply segments_flatMap_fill plain
  · intro name member
    obtain ⟨position, occurs⟩ := placeholder_mem_segments_iff.mp member
    exact occurs.isName
  · exact isChain_segmentsAfter opens

/--
Filling a source with some values and the result with others is filling it at once
with the first value that a name has.
-/
theorem substitute_in_stages
    {source : RawText}
    {first : RawText → Option Value}
    (opens : OpensOnlyPlaceholders source)
    (plain : OpensNothing first)
    (second : RawText → Option Value) :
    substitute (substitute source first) second =
      substitute source fun name => (first name).or (second name) :=
  calc
    substitute (substitute source first) second
        = ((segments source).flatMap (Segment.filled first)).flatMap
            (Segment.fill second) := by
          rw [← segments_substitute opens plain]
          rfl
    _ = (segments source).flatMap fun piece =>
          (piece.filled first).flatMap (Segment.fill second) :=
        List.flatMap_assoc
    _ = substitute source fun name => (first name).or (second name) := by
          simp only [Segment.flatMap_fill_filled]
          rfl

/-- Placeholders side by side, with braces around them that open nothing. -/
def adjacentSource : RawText :=
  "\x7b\x7ba\x7d\x7d\x7b\x7bb\x7d\x7d\x7d\x7bc\x7d\x7d".toList

/-- A value of the first stage that closes braces, and nothing for the other name. -/
def closingValues (name : RawText) : Option Value :=
  if name = "a".toList then some (.text "\x7d\x7d".toList) else none

/--
The second stage may put in what the first may not; where the first has a value, the
second has no say.
-/
theorem substitute_in_stages_ofAdjacent :
    OpensOnlyPlaceholders adjacentSource ∧
      OpensNothing closingValues ∧
      substitute (substitute adjacentSource closingValues)
          (fun _ => some (.text "\x7b\x7b".toList)) =
        "\x7d\x7d\x7b\x7b\x7d\x7bc\x7d\x7d".toList := by
  have opens : OpensOnlyPlaceholders adjacentSource := by
    decide
  have plain : OpensNothing closingValues := by
    intro name value given
    unfold closingValues at given
    split at given
    · cases given
      decide
    · cases given
  refine ⟨opens, plain, ?_⟩
  rw [substitute_in_stages opens plain]
  decide

end ContractTemplates
