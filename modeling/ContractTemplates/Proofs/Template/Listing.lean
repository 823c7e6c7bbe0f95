import ContractTemplates.Proofs.Entries
import ContractTemplates.Proofs.Text.Order
import ContractTemplates.Proofs.Text.Prefix
import ContractTemplates.Template.SourceFile

namespace ContractTemplates

/-!
# Listing a directory with one more entry

The template files of a directory are listed in the order of their locations.
One more entry is listed at one place and moves nothing else:
`SourceFile.all_put` says so for every directory and every new location.
-/

section Sorting

variable (le : α → α → Bool)

/-- A sorted list with an item put before the first one that it does not exceed. -/
def placed (item : α) (items : List α) : List α :=
  items.takeWhile (fun other => !le item other) ++
    item :: items.dropWhile (fun other => !le item other)

/-- Sorting one more item places it among the sorted others. -/
theorem mergeSort_cons_eq_placed
    (trans : ∀ a b c, le a b = true → le b c = true → le a c = true)
    (total : ∀ a b, (le a b || le b a) = true)
    (item : α)
    (items : List α) :
    (item :: items).mergeSort le = placed le item (items.mergeSort le) := by
  obtain ⟨before, later, sorted, others, exceeded⟩ :=
    List.mergeSort_cons trans total item items
  have ordered := List.pairwise_mergeSort trans total (item :: items)
  rw [sorted] at ordered
  have reached : ∀ other ∈ later, le item other = true :=
    (List.pairwise_cons.mp (List.pairwise_append.mp ordered).2.1).1
  rw [sorted, others]
  unfold placed
  rw [List.takeWhile_append_of_pos exceeded,
    List.dropWhile_append_of_pos exceeded]
  cases later with
  | nil =>
      simp
  | cons head rest =>
      simp [reached head]

/--
Placing one item among others leaves another item at its place, if those that
follow the other one are not exceeded wherever it is not.
-/
theorem placed_insert
    (head item : α)
    (smaller greater : List α)
    (reached :
      le head item = true → ∀ other ∈ greater, le head other = true) :
    ∃ before later,
      placed le head (smaller ++ item :: greater) = before ++ item :: later ∧
        placed le head (smaller ++ greater) = before ++ later := by
  induction smaller with
  | nil =>
      cases beyond : le head item with
      | false =>
          exact ⟨[], placed le head greater,
            by simp [placed, beyond], rfl⟩
      | true =>
          refine ⟨[head], greater, by simp [placed, beyond], ?_⟩
          cases greater with
          | nil =>
              rfl
          | cons next further =>
              simp [placed, reached beyond next]
  | cons first rest inductionHypothesis =>
      obtain ⟨before, later, withItem, withoutItem⟩ := inductionHypothesis
      cases stops : le head first with
      | false =>
          refine ⟨first :: before, later, ?_, ?_⟩
          · unfold placed at withItem ⊢
            simpa [stops] using withItem
          · unfold placed at withoutItem ⊢
            simpa [stops] using withoutItem
      | true =>
          exact ⟨head :: first :: rest, greater,
            by simp [placed, stops], by simp [placed, stops]⟩

/-- One more item is sorted in at one place and moves no other item. -/
theorem mergeSort_insert
    (trans : ∀ a b c, le a b = true → le b c = true → le a c = true)
    (total : ∀ a b, (le a b || le b a) = true)
    (before later : List α)
    (item : α) :
    ∃ smaller greater,
      (before ++ item :: later).mergeSort le = smaller ++ item :: greater ∧
        (before ++ later).mergeSort le = smaller ++ greater := by
  induction before with
  | nil =>
      obtain ⟨smaller, greater, sorted, others, _⟩ :=
        List.mergeSort_cons trans total item later
      exact ⟨smaller, greater, sorted, others⟩
  | cons head rest inductionHypothesis =>
      obtain ⟨smaller, greater, sorted, others⟩ := inductionHypothesis
      have ordered :=
        List.pairwise_mergeSort trans total (rest ++ item :: later)
      rw [sorted] at ordered
      have reached : ∀ other ∈ greater, le item other = true :=
        (List.pairwise_cons.mp (List.pairwise_append.mp ordered).2.1).1
      rw [List.cons_append, List.cons_append,
        mergeSort_cons_eq_placed le trans total,
        mergeSort_cons_eq_placed le trans total, sorted, others]
      exact placed_insert le head item smaller greater
        fun beyond other member => trans _ _ _ beyond (reached other member)

end Sorting

namespace Files

/-- One more entry below a directory comes last below it. -/
theorem below_put
    {files : Files}
    {directory name : Location}
    (named : name ≠ [])
    (absent : files.find? (directory ++ name) = none)
    (entry : FileEntry) :
    (files.put (directory ++ name) entry).below directory =
      files.below directory ++ [(name, entry)] := by
  have somewhere : directory ++ name ≠ [] := by
    simp [named]
  have missing : Entries.find? files (directory ++ name) = none := by
    simpa [find?, somewhere] using absent
  obtain ⟨first, rest, rfl⟩ := List.exists_cons_of_ne_nil named
  unfold put below
  rw [Entries.put_of_find?_eq_none missing]
  simp [Prefix.isPrefixOf?_append]

end Files

namespace SourceFile

theorem ne_nil_of_isNamed
    {name : Location}
    (template : isNamed name = true) :
    name ≠ [] := by
  rintro rfl
  simp [isNamed] at template

/--
One more template file is listed at one place, and the listing is otherwise as
it was.
-/
theorem all_put
    {files : Files}
    {directory name : Location}
    (template : isNamed name = true)
    (absent : files.find? (directory ++ name) = none)
    (entry : FileEntry) :
    ∃ before later,
      all directory (files.put (directory ++ name) entry) =
          before ++ entry :: later ∧
        all directory files = before ++ later := by
  have named := ne_nil_of_isNamed template
  obtain ⟨smaller, greater, sorted, others⟩ :=
    mergeSort_insert
      (fun a b : Location × FileEntry => Files.locationLe a.1 b.1)
      (fun a b c => Files.locationLe_trans)
      (fun a b => Files.locationLe_total a.1 b.1)
      ((files.below directory).filter fun entry => isNamed entry.1) []
      (name, entry)
  rw [List.append_nil] at others
  refine ⟨smaller.map Prod.snd, greater.map Prod.snd, ?_, ?_⟩
  · simp [all, Files.below_put named absent, template, sorted]
  · simp [all, others]

/-- A directory with one template file lists that file. -/
theorem all_single
    {name : Location}
    (template : isNamed name = true)
    (entry : FileEntry) :
    all [] [(name, entry)] = [entry] := by
  obtain ⟨first, rest, rfl⟩ :=
    List.exists_cons_of_ne_nil (ne_nil_of_isNamed template)
  have whole : List.isPrefixOf? [] (first :: rest) = some (first :: rest) :=
    rfl
  simp [all, Files.below, whole, template]

end SourceFile

end ContractTemplates
