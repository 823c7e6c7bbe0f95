import ContractTemplates.Text.Basic

namespace ContractTemplates

/-!
# Leading pieces

What is left of a list without a leading piece, and of a text without what stands
before a mark: before the first one where it is cut, or before the last one.
-/

namespace Prefix

theorem isPrefixOf?_cons_cons
    [BEq α]
    (a b : α)
    (lead list : List α) :
    (a :: lead).isPrefixOf? (b :: list) =
      if a == b then lead.isPrefixOf? list else none :=
  rfl

/-- A leading piece that was put in front is taken off again. -/
theorem isPrefixOf?_append
    [BEq α]
    [LawfulBEq α]
    (lead rest : List α) :
    lead.isPrefixOf? (lead ++ rest) = some rest := by
  induction lead with
  | nil =>
      rfl
  | cons a lead inductionHypothesis =>
      rw [List.cons_append, isPrefixOf?_cons_cons,
        if_pos (beq_self_eq_true a)]
      exact inductionHypothesis

end Prefix

namespace Text

/-- What follows a leading piece makes up the text together with it. -/
theorem eq_append_of_after?
    {lead text rest : Text}
    (found : after? lead text = some rest) :
    text = lead ++ rest := by
  induction lead generalizing text with
  | nil =>
      cases found
      rfl
  | cons c lead inductionHypothesis =>
      cases text with
      | nil =>
          cases found
      | cons d text =>
          unfold after? at found inductionHypothesis
          rw [Prefix.isPrefixOf?_cons_cons] at found
          split at found
          next same =>
            rw [eq_of_beq same, inductionHypothesis found]
            rfl
          next =>
            cases found

/-- A leading piece ends before a character that it does not have. -/
theorem prefix_of_append_eq
    {lead rest before later : Text}
    {c : Char}
    (absent : c ∉ lead)
    (same : lead ++ rest = before ++ c :: later) :
    lead <+: before := by
  have leads : lead <+: before ++ c :: later := ⟨rest, same⟩
  rcases Nat.lt_or_ge before.length lead.length with long | short
  · have reaches : before ++ [c] <+: lead := by
      refine List.prefix_of_prefix_length_le ⟨later, by simp⟩ leads ?_
      rw [List.length_append]
      exact long
    exact absurd (reaches.subset (by simp)) absent
  · exact List.prefix_of_prefix_length_le leads (List.prefix_append ..) short

/-- A text without the mark is not cut. -/
theorem cut_eq_self
    {mark : Char}
    {text : Text}
    (unmarked : mark ∉ text) :
    cut mark text = (text, none) := by
  induction text with
  | nil =>
      rfl
  | cons c rest inductionHypothesis =>
      obtain ⟨different, others⟩ :=
        List.ne_and_not_mem_of_not_mem_cons unmarked
      rw [cut, if_neg (Ne.symm different), inductionHypothesis others]

/-- A text is cut at its first mark. -/
theorem cut_append
    {mark : Char}
    {before : Text}
    (unmarked : mark ∉ before)
    (later : Text) :
    cut mark (before ++ mark :: later) = (before, some later) := by
  induction before with
  | nil =>
      exact if_pos rfl
  | cons c rest inductionHypothesis =>
      have different : c ≠ mark := by
        rintro rfl
        exact unmarked List.mem_cons_self
      have others :=
        inductionHypothesis fun member => unmarked (List.mem_cons_of_mem _ member)
      rw [List.cons_append, cut, if_neg different, others]

/-- Texts that are equal are parted alike by their last marks. -/
theorem eq_of_append_cons_eq
    {mark : Char}
    {before other later rest : Text}
    (laterUnmarked : mark ∉ later)
    (restUnmarked : mark ∉ rest)
    (same : before ++ mark :: later = other ++ mark :: rest) :
    before = other ∧ later = rest := by
  -- Backwards, the last mark is the first one, where a text is cut.
  have backwards :
      later.reverse ++ mark :: before.reverse =
        rest.reverse ++ mark :: other.reverse := by
    simpa using congrArg List.reverse same
  have cutLater :=
    cut_append (mt List.mem_reverse.mp laterUnmarked) before.reverse
  have cutRest :=
    cut_append (mt List.mem_reverse.mp restUnmarked) other.reverse
  rw [backwards, cutRest, Prod.mk.injEq, Option.some.injEq] at cutLater
  obtain ⟨sameLater, sameBefore⟩ := cutLater
  exact ⟨(List.reverse_inj.mp sameBefore).symm,
    (List.reverse_inj.mp sameLater).symm⟩

end Text

end ContractTemplates
