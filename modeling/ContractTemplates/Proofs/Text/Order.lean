import ContractTemplates.Files

namespace ContractTemplates

/-!
# The order of texts and of locations

Texts are ordered character by character and locations name by name. Both orders
compare any two items, and both are transitive, which is what sorting by them
needs.
-/

namespace Text

theorem le_total
    (a b : Text) :
    (le a b || le b a) = true := by
  induction a generalizing b with
  | nil =>
      simp [le]
  | cons c as inductionHypothesis =>
      cases b with
      | nil =>
          simp [le]
      | cons d bs =>
          have later := inductionHypothesis bs
          simp only [le, Bool.or_eq_true, Bool.and_eq_true,
            decide_eq_true_eq] at later ⊢
          by_cases below : c < d
          · exact .inl (.inl below)
          · by_cases above : d < c
            · exact .inr (.inl above)
            · have same : c = d :=
                Char.le_antisymm (Char.not_lt.mp above) (Char.not_lt.mp below)
              rcases later with before | after
              · exact .inl (.inr ⟨same, before⟩)
              · exact .inr (.inr ⟨same.symm, after⟩)

theorem le_trans
    {a b c : Text}
    (first : le a b = true)
    (second : le b c = true) :
    le a c = true := by
  induction a generalizing b c with
  | nil =>
      rfl
  | cons x as inductionHypothesis =>
      cases b with
      | nil =>
          simp [le] at first
      | cons y bs =>
          cases c with
          | nil =>
              simp [le] at second
          | cons z cs =>
              simp only [le, Bool.or_eq_true, Bool.and_eq_true,
                decide_eq_true_eq] at first second ⊢
              rcases first with below | ⟨rfl, before⟩
              · rcases second with further | ⟨rfl, _⟩
                · exact .inl (Char.lt_trans below further)
                · exact .inl below
              · rcases second with further | ⟨rfl, after⟩
                · exact .inl further
                · exact .inr ⟨rfl, inductionHypothesis before after⟩

theorem le_antisymm
    {a b : Text}
    (before : le a b = true)
    (after : le b a = true) :
    a = b := by
  induction a generalizing b with
  | nil =>
      cases b with
      | nil =>
          rfl
      | cons y bs =>
          simp [le] at after
  | cons x as inductionHypothesis =>
      cases b with
      | nil =>
          simp [le] at before
      | cons y bs =>
          simp only [le, Bool.or_eq_true, Bool.and_eq_true,
            decide_eq_true_eq] at before after
          rcases before with below | ⟨rfl, before⟩
          · rcases after with above | ⟨rfl, _⟩
            · exact absurd (Char.lt_trans below above) (Char.lt_irrefl x)
            · exact absurd below (Char.lt_irrefl y)
          · rcases after with above | ⟨_, after⟩
            · exact absurd above (Char.lt_irrefl x)
            · rw [inductionHypothesis before after]

end Text

namespace Files

theorem locationLe_total
    (a b : Location) :
    (locationLe a b || locationLe b a) = true := by
  induction a generalizing b with
  | nil =>
      simp [locationLe]
  | cons x as inductionHypothesis =>
      cases b with
      | nil =>
          simp [locationLe]
      | cons y bs =>
          by_cases same : x = y
          · subst same
            simpa [locationLe] using inductionHypothesis bs
          · have other : ¬ y = x := fun equal => same equal.symm
            simpa [locationLe, same, other] using Text.le_total x y

/-- What comes before a location comes before all that come after it. -/
theorem locationLe_trans
    {a b c : Location}
    (first : locationLe a b = true)
    (second : locationLe b c = true) :
    locationLe a c = true := by
  induction a generalizing b c with
  | nil =>
      simp [locationLe]
  | cons x as inductionHypothesis =>
      cases b with
      | nil =>
          simp [locationLe] at first
      | cons y bs =>
          cases c with
          | nil =>
              simp [locationLe] at second
          | cons z cs =>
              simp only [locationLe] at first second ⊢
              by_cases sameFirst : x = y
              · subst sameFirst
                by_cases sameSecond : x = z
                · subst sameSecond
                  simp only [if_true] at first second ⊢
                  exact inductionHypothesis first second
                · simpa [sameSecond] using second
              · rw [if_neg sameFirst] at first
                by_cases sameSecond : y = z
                · subst sameSecond
                  simpa [sameFirst] using first
                · rw [if_neg sameSecond] at second
                  by_cases sameEnds : x = z
                  · subst sameEnds
                    exact absurd (Text.le_antisymm first second) sameFirst
                  · rw [if_neg sameEnds]
                    exact Text.le_trans first second

end Files

end ContractTemplates
