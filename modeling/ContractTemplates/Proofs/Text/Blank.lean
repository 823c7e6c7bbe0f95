import Mathlib.Data.List.TakeWhile
import ContractTemplates.Text.Blank

namespace ContractTemplates.Text

/-!
# Runs of blanks

A text is a run of blanks and something that does not begin with a blank, and in one way only. A
text with none of the characters that trimming drops is left as it is.
-/

/-- Whether all characters of a text are blank. -/
def AllBlank (text : Text) : Prop :=
  ∀ c ∈ text, isBlank c = true

instance (text : Text) : Decidable (AllBlank text) :=
  decidable_of_iff (text.all isBlank = true) List.all_eq_true

variable
  {text blanks rest : Text}

theorem allBlank_nil :
    AllBlank [] := by
  intro c member
  cases member

theorem allBlank_cons_iff
    {c : Char} :
    AllBlank (c :: rest) ↔ isBlank c = true ∧ AllBlank rest :=
  List.forall_mem_cons

theorem allBlank_append_iff :
    AllBlank (blanks ++ rest) ↔ AllBlank blanks ∧ AllBlank rest :=
  List.forall_mem_append

theorem allBlank_takeWhile
    (text : Text) :
    AllBlank (text.takeWhile isBlank) :=
  fun _ member => List.mem_takeWhile_imp member

/-- Blanks in front are dropped up to the first character that is none. -/
theorem AllBlank.dropWhile_append
    (blank : blanks.AllBlank)
    (visible : ∀ c ∈ rest.head?, isBlank c = false) :
    (blanks ++ rest).dropWhile isBlank = rest := by
  rw [List.dropWhile_append_of_pos blank]
  cases rest with
  | nil =>
      rfl
  | cons c rest =>
      have stops : ¬ isBlank c = true := by
        rw [visible c rfl]
        exact Bool.false_ne_true
      exact List.dropWhile_cons_of_neg stops

/-- No blanks stand behind a character at the end that is none. -/
theorem AllBlank.eq_nil_of_isSuffix
    (blank : blanks.AllBlank)
    (ends : ∀ c ∈ text.getLast?, isBlank c = false)
    (isSuffix : blanks <:+ text) :
    blanks = [] := by
  obtain ⟨start, rfl⟩ := isSuffix
  rcases List.eq_nil_or_concat blanks with none | ⟨others, c, rfl⟩
  · exact none
  · have visible := ends c (by simp)
    rw [blank c (by simp)] at visible
    cases visible

theorem trimmed_eq_self
    {drop : Char → Bool}
    (kept : ∀ c ∈ text, drop c = false) :
    text.trimmed drop = text := by
  have whole {list : List Char} (none : ∀ c ∈ list, drop c = false) :
      list.dropWhile drop = list := by
    cases list with
    | nil =>
        rfl
    | cons c rest =>
        rw [List.dropWhile_cons_of_neg]
        simp [none c List.mem_cons_self]
  unfold trimmed
  rw [whole kept, whole fun c member => kept c (List.mem_reverse.mp member), List.reverse_reverse]

end ContractTemplates.Text
