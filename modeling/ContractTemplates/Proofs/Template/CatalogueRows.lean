import ContractTemplates.Template.Catalogue

namespace ContractTemplates.Catalogue

/-!
# What the catalogue lists

A query that can be put to the store is answered, and its answer has exactly the published
rows that match it, whatever their order: `list_eq_ok_iff` and `mem_of_list_iff`. For a
query with a search text `check_eq_ok_iff` and `matchesSearch_iff` say when it can be put
and which rows match it.
-/

variable
  {query : CatalogueQuery}
  {search : Text}
  {store : Store}
  {published rows : List TemplateRow}
  {row : TemplateRow}

theorem list_eq_ok_iff :
    list query store = .ok rows ↔
      check query (store.templates.filter (·.isPublished)) = .ok () ∧
        rows =
          byTitle ((store.templates.filter (·.isPublished)).filter fun row =>
            matchesSearch query row && matchesPrice query row) := by
  unfold list
  dsimp only
  cases check query (store.templates.filter (·.isPublished)) with
  | error fault =>
      exact iff_of_false nofun nofun
  | ok =>
      constructor
      · rintro ⟨⟩
        exact ⟨rfl, rfl⟩
      · rintro ⟨_, rfl⟩
        rfl

/-- Sorting by titles neither loses nor adds a row. -/
theorem mem_of_list_iff
    (listed : list query store = .ok rows) :
    row ∈ rows ↔
      row ∈ store.templates ∧ row.isPublished = true ∧
        matchesSearch query row = true ∧ matchesPrice query row = true := by
  obtain ⟨_, rfl⟩ := list_eq_ok_iff.mp listed
  unfold byTitle
  rw [List.mem_mergeSort, List.mem_filter, List.mem_filter, Bool.and_eq_true,
    and_assoc]

theorem pattern?_eq
    (asked : query.search = some search) :
    pattern? query = if search = [] then none else some (searchPattern search) := by
  unfold pattern?
  rw [asked]
  by_cases nothing : search = []
  · rw [if_pos nothing, nothing]
    rfl
  · rw [if_neg nothing, Option.filter, if_pos (decide_eq_true nothing)]
    rfl

/-- A query with a search text can be put unless a number or the pattern is too large. -/
theorem check_eq_ok_iff
    (asked : query.search = some search) :
    check query published = .ok () ↔
      query.minPrice.all Validation.fitsWord = true ∧
        query.maxPrice.all Validation.fitsWord = true ∧
        (published = [] ∨ (searchPattern search).utf8.length ≤ patternLimit) := by
  have short : (searchPattern []).utf8.length ≤ patternLimit := by
    decide
  unfold check
  rw [pattern?_eq asked]
  by_cases nothing : search = [] <;>
    grind

/-- A row matches a search text if its title or its description contains it. -/
theorem matchesSearch_iff
    (asked : query.search = some search) :
    matchesSearch query row = true ↔
      search = [] ∨
        isFoundIn (searchPattern search) row.titleText = true ∨
        isFoundIn (searchPattern search) row.descriptionText = true := by
  unfold matchesSearch
  rw [pattern?_eq asked]
  by_cases nothing : search = []
  · simp [nothing]
  · simp [nothing]

/-- Without bounds of the price exactly the matching rows are listed, if the pattern is short. -/
theorem exists_list_of_short
    (short : (searchPattern search).utf8.length ≤ patternLimit)
    (store : Store) :
    ∃ rows,
      list ⟨some search, none, none⟩ store = .ok rows ∧
        ∀ row, row ∈ rows ↔
          row ∈ store.templates ∧ row.isPublished = true ∧
            matchesSearch ⟨some search, none, none⟩ row = true := by
  have checked :
      check ⟨some search, none, none⟩
        (store.templates.filter (·.isPublished)) = .ok () :=
    (check_eq_ok_iff rfl).mpr ⟨rfl, rfl, .inr short⟩
  have listed := list_eq_ok_iff.mpr ⟨checked, rfl⟩
  refine ⟨_, listed, fun row => ?_⟩
  rw [mem_of_list_iff listed]
  simp [matchesPrice]

end ContractTemplates.Catalogue
