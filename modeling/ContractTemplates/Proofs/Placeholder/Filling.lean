import ContractTemplates.Proofs.Placeholder.Occurrence

namespace ContractTemplates

/-!
# Filled sources

A filled source is put together from one part for each position of the source.
`Contributes` gives the part of a position by what occurs there: the text of the
value where a placeholder begins that has one, the placeholder itself where it has
none, nothing inside a placeholder, and the character everywhere else.

The scan from left to right makes just these parts, so it neither skips nor breaks
an occurrence. Where a part comes from is a matter of the source alone: the texts of
the values have no say in it.
-/

/-- What a position of a source adds to the filled source. -/
inductive Contributes
    (source : RawText)
    (values : RawText → Option Value)
    (position : Nat) :
    RawText → Prop where
  /-- A placeholder with a value becomes the text of the value. -/
  | replaced
      {name : RawText}
      {value : Value}
      (occurs : OccursAt source position name)
      (given : values name = some value) :
      Contributes source values position value.render
  /-- A placeholder without a value stays as it is written. -/
  | verbatim
      {name : RawText}
      (occurs : OccursAt source position name)
      (absent : values name = none) :
      Contributes source values position (Segment.placeholder name).text
  /-- The further characters of a placeholder add nothing. -/
  | covered
      {start : Nat}
      {name : RawText}
      (occurs : OccursAt source start name)
      (begun : start < position)
      (unfinished : position < pastPlaceholder start name) :
      Contributes source values position []
  /-- A character outside all placeholders stays. -/
  | kept
      {c : CodePoint}
      (outside :
        ∀ start name,
          OccursAt source start name →
          position < start ∨ pastPlaceholder start name ≤ position)
      (character : source[position]? = some c) :
      Contributes source values position [c]

/-- Whether a text is put together from what the positions of a source add. -/
structure Composes
    (source : RawText)
    (values : RawText → Option Value)
    (parts : List RawText)
    (result : RawText) : Prop where
  onePartEach : parts.length = source.length
  contributes :
    ∀ position part,
      parts[position]? = some part →
      Contributes source values position part
  joined : result = parts.flatten

/--
The parts of a filled source, one for each character, after `skip` characters that
an earlier placeholder has already taken.
-/
def partsAfter (values : RawText → Option Value) : Nat → RawText → List RawText
  | _, [] => []
  | skip + 1, _ :: rest => [] :: partsAfter values skip rest
  | 0, c :: rest =>
      match leadingPlaceholder? (c :: rest) with
      | some name =>
          Segment.fill values (.placeholder name) ::
            partsAfter values (name.length + 3) rest
      | none => [c] :: partsAfter values 0 rest

section Parts

variable (values : RawText → Option Value)

theorem partsAfter_placeholder
    {c : CodePoint}
    {rest name : RawText}
    (found : leadingPlaceholder? (c :: rest) = some name) :
    partsAfter values 0 (c :: rest) =
      Segment.fill values (.placeholder name) ::
        partsAfter values (name.length + 3) rest := by
  rw [partsAfter, found]

theorem partsAfter_character
    {c : CodePoint}
    {rest : RawText}
    (absent : leadingPlaceholder? (c :: rest) = none) :
    partsAfter values 0 (c :: rest) = [c] :: partsAfter values 0 rest := by
  rw [partsAfter, absent]

theorem length_partsAfter
    (skip : Nat)
    (source : RawText) :
    (partsAfter values skip source).length = source.length := by
  induction source generalizing skip with
  | nil =>
      simp [partsAfter]
  | cons c rest inductionHypothesis =>
      cases skip with
      | succ skip =>
          simp [partsAfter, inductionHypothesis]
      | zero =>
          cases found : leadingPlaceholder? (c :: rest) with
          | some name =>
              simp [partsAfter_placeholder values found, inductionHypothesis]
          | none =>
              simp [partsAfter_character values found, inductionHypothesis]

theorem flatten_partsAfter
    (skip : Nat)
    (source : RawText) :
    (partsAfter values skip source).flatten =
      (segmentsAfter skip source).flatMap (Segment.fill values) := by
  induction source generalizing skip with
  | nil =>
      simp [partsAfter, segmentsAfter]
  | cons c rest inductionHypothesis =>
      cases skip with
      | succ skip =>
          simpa [partsAfter, segmentsAfter] using inductionHypothesis skip
      | zero =>
          cases found : leadingPlaceholder? (c :: rest) with
          | some name =>
              rw [partsAfter_placeholder values found, segmentsAfter, found]
              simp [inductionHypothesis]
          | none =>
              rw [partsAfter_character values found, segmentsAfter, found]
              simp [inductionHypothesis, Segment.fill]

end Parts

/--
Where a scan stands: the placeholders begun before its position end `skip`
characters after it, and if there are any such characters one of them goes on.
-/
structure ScanStandsAt (source : RawText) (position skip : Nat) : Prop where
  finished :
    ∀ start name,
      OccursAt source start name →
      start < position →
      pastPlaceholder start name ≤ position + skip
  unfinished :
    0 < skip →
      ∃ start name,
        OccursAt source start name ∧
          start < position ∧
          pastPlaceholder start name = position + skip

namespace ScanStandsAt

variable
  {source : RawText}
  {position skip : Nat}

theorem start
    (source : RawText) :
    ScanStandsAt source 0 0 where
  finished := by
    intro start name _ before
    omega
  unfinished := by
    intro positive
    omega

/-- Inside a placeholder no other begins. -/
theorem inside
    (stands : ScanStandsAt source position (skip + 1)) :
    ScanStandsAt source (position + 1) skip := by
  obtain ⟨opener, name, occurs, begun, past⟩ := stands.unfinished (by omega)
  constructor
  case finished =>
    intro start other again before
    rcases Nat.lt_succ_iff_lt_or_eq.mp before with earlier | rfl
    · have bound := stands.finished start other again earlier
      omega
    · have bound := occurs.past_le_of_lt again begun
      omega
  case unfinished =>
    intro _
    exact ⟨opener, name, occurs, by omega, by omega⟩

/-- A placeholder takes its characters after the first. -/
theorem afterPlaceholder
    {name : RawText}
    (stands : ScanStandsAt source position 0)
    (occurs : OccursAt source position name) :
    ScanStandsAt source (position + 1) (name.length + 3) := by
  constructor
  case finished =>
    intro start other again before
    rcases Nat.lt_succ_iff_lt_or_eq.mp before with earlier | rfl
    · have bound := stands.finished start other again earlier
      omega
    · cases occurs.unique again
      unfold pastPlaceholder
      omega
  case unfinished =>
    intro _
    refine ⟨position, name, occurs, by omega, ?_⟩
    unfold pastPlaceholder
    omega

/-- A character outside the placeholders is passed alone. -/
theorem afterCharacter
    (stands : ScanStandsAt source position 0)
    (none : ∀ name, ¬ OccursAt source position name) :
    ScanStandsAt source (position + 1) 0 := by
  constructor
  case finished =>
    intro start other again before
    rcases Nat.lt_succ_iff_lt_or_eq.mp before with earlier | rfl
    · have bound := stands.finished start other again earlier
      omega
    · exact absurd again (none other)
  case unfinished =>
    intro positive
    omega

/-- A position that no placeholder takes is outside all of them. -/
theorem outside
    (stands : ScanStandsAt source position 0)
    (none : ∀ name, ¬ OccursAt source position name) :
    ∀ start name,
      OccursAt source start name →
      position < start ∨ pastPlaceholder start name ≤ position := by
  intro start name occurs
  rcases Nat.lt_trichotomy start position with before | rfl | after
  · exact .inr (stands.finished start name occurs before)
  · exact absurd occurs (none name)
  · exact .inl after

end ScanStandsAt

theorem contributes_fill
    {source name : RawText}
    {position : Nat}
    (values : RawText → Option Value)
    (occurs : OccursAt source position name) :
    Contributes source values position
      (Segment.fill values (.placeholder name)) := by
  cases given : values name with
  | some value =>
      simpa [Segment.fill, given] using Contributes.replaced occurs given
  | none =>
      simpa [Segment.fill, given] using Contributes.verbatim occurs given

/-- Each part that the scan makes is what its position adds. -/
theorem contributes_of_partsAfter
    {source rest : RawText}
    {values : RawText → Option Value}
    {position skip offset : Nat}
    {part : RawText}
    (remaining : source.drop position = rest)
    (stands : ScanStandsAt source position skip)
    (made : (partsAfter values skip rest)[offset]? = some part) :
    Contributes source values (position + offset) part := by
  induction rest generalizing position skip offset with
  | nil =>
      simp [partsAfter] at made
  | cons c rest inductionHypothesis =>
      have character : source[position]? = some c := by
        rw [← Nat.add_zero position, ← List.getElem?_drop, remaining]
        rfl
      have next : source.drop (position + 1) = rest := by
        rw [← List.drop_drop, remaining]
        rfl
      -- The parts after the first are made by the scan one position further on.
      have later :
          ∀ {skip offset},
            ScanStandsAt source (position + 1) skip →
            (partsAfter values skip rest)[offset]? = some part →
            Contributes source values (position + (offset + 1)) part := by
        intro skip offset stands made
        rw [← Nat.add_assoc, Nat.add_right_comm]
        exact inductionHypothesis next stands made
      cases skip with
      | succ skip =>
          cases offset with
          | zero =>
              obtain ⟨start, name, occurs, begun, past⟩ :=
                stands.unfinished (by omega)
              cases made
              exact .covered occurs begun (by omega)
          | succ offset =>
              exact later stands.inside made
      | zero =>
          cases found : leadingPlaceholder? (c :: rest) with
          | some name =>
              have occurs : OccursAt source position name := by
                rw [occursAt_iff_leadingPlaceholder?, remaining, found]
              rw [partsAfter_placeholder values found] at made
              cases offset with
              | zero =>
                  cases made
                  exact contributes_fill values occurs
              | succ offset =>
                  exact later (stands.afterPlaceholder occurs) made
          | none =>
              have none : ∀ name, ¬ OccursAt source position name := by
                intro name occurs
                rw [occursAt_iff_leadingPlaceholder?, remaining, found] at occurs
                cases occurs
              rw [partsAfter_character values found] at made
              cases offset with
              | zero =>
                  cases made
                  exact .kept (stands.outside none) character
              | succ offset =>
                  exact later (stands.afterCharacter none) made

namespace Contributes

variable
  {source part other : RawText}
  {values : RawText → Option Value}
  {position : Nat}

theorem eq_fill
    {name : RawText}
    (contributes : Contributes source values position part)
    (occurs : OccursAt source position name) :
    part = Segment.fill values (.placeholder name) := by
  cases contributes with
  | replaced again given =>
      cases occurs.unique again
      simp [Segment.fill, given]
  | verbatim again absent =>
      cases occurs.unique again
      simp [Segment.fill, absent]
  | covered earlier begun unfinished =>
      have bound := earlier.past_le_of_lt occurs begun
      omega
  | kept outside character =>
      have past := lt_pastPlaceholder position name
      have apart := outside position name occurs
      omega

theorem eq_nil
    {start : Nat}
    {name : RawText}
    (contributes : Contributes source values position part)
    (occurs : OccursAt source start name)
    (begun : start < position)
    (unfinished : position < pastPlaceholder start name) :
    part = [] := by
  cases contributes with
  | replaced again given =>
      have bound := occurs.past_le_of_lt again begun
      omega
  | verbatim again absent =>
      have bound := occurs.past_le_of_lt again begun
      omega
  | covered _ _ _ =>
      rfl
  | kept outside character =>
      have apart := outside start name occurs
      omega

theorem eq_character
    {c : CodePoint}
    (contributes : Contributes source values position part)
    (outside :
      ∀ start name,
        OccursAt source start name →
        position < start ∨ pastPlaceholder start name ≤ position)
    (character : source[position]? = some c) :
    part = [c] := by
  cases contributes with
  | @replaced name _ again given =>
      have past := lt_pastPlaceholder position name
      have apart := outside position name again
      omega
  | @verbatim name again absent =>
      have past := lt_pastPlaceholder position name
      have apart := outside position name again
      omega
  | @covered start name occurs begun unfinished =>
      have apart := outside start name occurs
      omega
  | kept _ same =>
      rw [character] at same
      cases same
      rfl

/-- A position adds only one thing. -/
theorem unique
    (contributes : Contributes source values position part)
    (again : Contributes source values position other) :
    part = other := by
  cases contributes with
  | replaced occurs given =>
      rw [again.eq_fill occurs]
      simp [Segment.fill, given]
  | verbatim occurs absent =>
      rw [again.eq_fill occurs]
      simp [Segment.fill, absent]
  | covered occurs begun unfinished =>
      exact (again.eq_nil occurs begun unfinished).symm
  | kept outside character =>
      exact (again.eq_character outside character).symm

/-- Where no placeholder begins, the values have no say. -/
theorem of_not_occursAt
    (contributes : Contributes source values position part)
    (none : ∀ name, ¬ OccursAt source position name)
    (others : RawText → Option Value) :
    Contributes source others position part := by
  cases contributes with
  | replaced occurs given =>
      exact absurd occurs (none _)
  | verbatim occurs absent =>
      exact absurd occurs (none _)
  | covered occurs begun unfinished =>
      exact .covered occurs begun unfinished
  | kept outside character =>
      exact .kept outside character

end Contributes

/-- Filling a source puts the parts of its positions together. -/
theorem composes_substitute
    (source : RawText)
    (values : RawText → Option Value) :
    Composes source values (partsAfter values 0 source)
      (substitute source values) where
  onePartEach := length_partsAfter values 0 source
  contributes := by
    intro position part made
    rw [← Nat.zero_add position]
    exact contributes_of_partsAfter List.drop_zero (.start source) made
  joined := (flatten_partsAfter values 0 source).symm

theorem Composes.parts_unique
    {source result another : RawText}
    {values : RawText → Option Value}
    {parts others : List RawText}
    (composes : Composes source values parts result)
    (again : Composes source values others another) :
    parts = others := by
  apply List.ext_getElem?
  intro position
  by_cases within : position < source.length
  · have here : position < parts.length := by
      rw [composes.onePartEach]
      exact within
    have there : position < others.length := by
      rw [again.onePartEach]
      exact within
    rw [List.getElem?_eq_getElem here, List.getElem?_eq_getElem there]
    have contributes :=
      composes.contributes position _ (List.getElem?_eq_getElem here)
    have alike :=
      again.contributes position _ (List.getElem?_eq_getElem there)
    rw [contributes.unique alike]
  · have beyond : source.length ≤ position :=
      Nat.le_of_not_lt within
    rw [List.getElem?_eq_none (by rwa [composes.onePartEach]),
      List.getElem?_eq_none (by rwa [again.onePartEach])]

/-- The part of a placeholder that has a value is the text of the value. -/
theorem Composes.part_of_occursAt
    {source result name : RawText}
    {values : RawText → Option Value}
    {parts : List RawText}
    {position : Nat}
    {value : Value}
    (composes : Composes source values parts result)
    (occurs : OccursAt source position name)
    (given : values name = some value) :
    parts[position]? = some value.render := by
  have within : position < parts.length := by
    rw [composes.onePartEach]
    exact Nat.lt_of_lt_of_le (lt_pastPlaceholder position name)
      occurs.past_le_length
  rw [List.getElem?_eq_getElem within]
  have contributes :=
    composes.contributes position _ (List.getElem?_eq_getElem within)
  rw [contributes.unique (.replaced occurs given)]

/--
Placeholders do not overlap, and a filled source is what its positions add: every
placeholder with a value is replaced by the text of the value, and everything else
stays as it is. Where no placeholder begins, every filling has the same part.
-/
theorem substitute_replaces_occurrences
    (source : RawText) :
    (∀ first second name other,
        OccursAt source first name →
        OccursAt source second other →
        first < second ∧ pastPlaceholder first name ≤ second ∨
          second < first ∧ pastPlaceholder second other ≤ first ∨
          first = second ∧ name = other) ∧
      (∀ values result,
        (∃ parts, Composes source values parts result) ↔
          result = substitute source values) ∧
      ∀ values others position part,
        (∀ name, ¬ OccursAt source position name) →
        Contributes source values position part →
        Contributes source others position part := by
  refine ⟨?_, ?_, ?_⟩
  · intro first second name other occurs again
    rcases Nat.lt_trichotomy first second with before | rfl | after
    · exact .inl ⟨before, occurs.past_le_of_lt again before⟩
    · exact .inr (.inr ⟨rfl, occurs.unique again⟩)
    · exact .inr (.inl ⟨after, again.past_le_of_lt occurs after⟩)
  · intro values result
    constructor
    · rintro ⟨parts, composes⟩
      have filled := composes_substitute source values
      rw [composes.joined, filled.joined, composes.parts_unique filled]
    · rintro rfl
      exact ⟨_, composes_substitute source values⟩
  · intro values others position part none contributes
    exact contributes.of_not_occursAt none others

/-- In a run of braces the inner two pairs count, and what is put in is left alone. -/
example :
    substitute "\x7b\x7b\x7ba\x7d\x7d\x7d".toList
        (fun name =>
          if name = "a".toList then
            some (.text "\x7b\x7ba\x7d\x7d".toList)
          else
            none) =
      "\x7b\x7b\x7ba\x7d\x7d\x7d".toList := by
  decide

end ContractTemplates
