import ContractTemplates.Text.Basic

namespace ContractTemplates.Text

/-!
# Pieces between marks

Cutting a text at a mark and joining the pieces again are inverse to each other, as long
as no piece has the mark.
-/

theorem split_eq_splitOn
    (mark : Char)
    (text : Text) :
    split mark text = text.splitOn mark := by
  induction text with
  | nil =>
      rw [List.splitOn_nil]
      rfl
  | cons c rest inductionHypothesis =>
      obtain ⟨piece, pieces, shape⟩ :=
        List.exists_cons_of_ne_nil (List.splitOn_ne_nil mark rest)
      rw [split, inductionHypothesis, List.splitOn_cons_eq_if_modifyHead, shape]
      simp only [beq_iff_eq, List.modifyHead_cons]

theorem split_cons_self
    (mark : Char)
    (rest : Text) :
    split mark (mark :: rest) = [] :: split mark rest := by
  simp only [split_eq_splitOn, List.splitOn_cons_eq_if_modifyHead,
    beq_self_eq_true, if_true]

/-- Pieces without the mark are found again between the marks. -/
theorem split_joined
    {mark : Char}
    {pieces : List Text}
    (nonempty : pieces ≠ [])
    (unmarked : ∀ piece ∈ pieces, mark ∉ piece) :
    split mark (joined [mark] pieces) = pieces := by
  rw [split_eq_splitOn]
  exact List.splitOn_intercalate mark unmarked nonempty

/-- No piece between marks has the mark. -/
theorem not_mem_of_mem_split
    {mark : Char}
    {text piece : Text}
    (member : piece ∈ split mark text) :
    mark ∉ piece := by
  induction text generalizing piece with
  | nil =>
      rw [List.mem_singleton.mp member]
      exact List.not_mem_nil
  | cons c rest inductionHypothesis =>
      obtain ⟨first, others, shape⟩ :=
        List.exists_cons_of_ne_nil
          (split_eq_splitOn mark rest ▸ List.splitOn_ne_nil mark rest)
      rw [shape] at inductionHypothesis
      have firstUnmarked := inductionHypothesis List.mem_cons_self
      have othersUnmarked : ∀ other ∈ others, mark ∉ other := fun other later =>
        inductionHypothesis (List.mem_cons_of_mem _ later)
      rw [split, shape] at member
      dsimp only at member
      split at member
      next marked =>
        rcases List.mem_cons.mp member with rfl | later
        · exact List.not_mem_nil
        · exact inductionHypothesis later
      next different =>
        rcases List.mem_cons.mp member with rfl | later
        · rintro (_ | ⟨_, among⟩)
          · exact different rfl
          · exact firstUnmarked among
        · exact othersUnmarked piece later

end ContractTemplates.Text
