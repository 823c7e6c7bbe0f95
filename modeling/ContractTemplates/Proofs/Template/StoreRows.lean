import ContractTemplates.Template.Store
import Mathlib.Data.List.Nodup

namespace ContractTemplates.Store

/-!
# Rows of the store

What looking up, changing and adding say about the rows of a store: which rows
are found, which ids there are, and which versions belong to a template.
-/

/-- A template that is found is stored under the id that was asked for. -/
theorem mem_of_find?_eq_some
    {store : Store}
    {id : Text}
    {row : TemplateRow}
    (found : store.find? id = some row) :
    row ∈ store.templates ∧ row.id = id :=
  ⟨List.mem_of_find?_eq_some found, by
    simpa using List.find?_some found⟩

/-- Nothing is found under an id exactly if no template has it. -/
theorem find?_eq_none_iff
    {store : Store}
    {id : Text} :
    store.find? id = none ↔ ∀ row ∈ store.templates, row.id ≠ id := by
  simp [find?]

/-- Where ids are distinct, every template is found under its id. -/
theorem find?_of_mem
    {store : Store}
    {row : TemplateRow}
    (distinct : (store.templates.map TemplateRow.id).Nodup)
    (held : row ∈ store.templates) :
    store.find? row.id = some row := by
  cases found : store.find? row.id with
  | none =>
      exact absurd rfl (find?_eq_none_iff.mp found row held)
  | some other =>
      obtain ⟨member, sameId⟩ := mem_of_find?_eq_some found
      rw [List.inj_on_of_nodup_map distinct member held sameId]

theorem find?_addTemplate_self
    {row : TemplateRow}
    {store : Store}
    (absent : store.find? row.id = none) :
    (store.addTemplate row).find? row.id = some row := by
  unfold find? at absent
  simp [find?, addTemplate, List.find?_append, absent]

theorem find?_addTemplate_other
    {row : TemplateRow}
    {id : Text}
    (other : row.id ≠ id)
    (store : Store) :
    (store.addTemplate row).find? id = store.find? id := by
  simp [find?, addTemplate, List.find?_append, other]

theorem find?_update_self
    {row before : TemplateRow}
    {store : Store}
    (found : store.find? row.id = some before) :
    (store.update row).find? row.id = some row := by
  unfold find? at found
  unfold find? update replaced
  generalize store.templates = rows at found
  induction rows with
  | nil =>
      cases found
  | cons head rest inductionHypothesis =>
      by_cases same : head.id = row.id
      · simp [same]
      · simp only [List.find?_cons, same, decide_false] at found
        simpa [same] using inductionHypothesis found

theorem find?_update_other
    {row : TemplateRow}
    {id : Text}
    (other : row.id ≠ id)
    (store : Store) :
    (store.update row).find? id = store.find? id := by
  unfold find? update replaced
  induction store.templates with
  | nil =>
      rfl
  | cons head rest inductionHypothesis =>
      by_cases same : head.id = row.id
      · have apart : head.id ≠ id := same ▸ other
        simpa [same, other, apart] using inductionHypothesis
      · by_cases asked : head.id = id
        · subst asked
          simp [same]
        · simpa [same, asked] using inductionHypothesis

/-- A changed row takes the place of the rows with its id. -/
theorem mem_replaced_iff
    {row held : TemplateRow}
    {rows : List TemplateRow} :
    held ∈ replaced row rows ↔
      (held = row ∧ ∃ before ∈ rows, before.id = row.id) ∨
        (held ∈ rows ∧ held.id ≠ row.id) := by
  unfold replaced
  rw [List.mem_map]
  constructor
  · rintro ⟨before, member, becomes⟩
    by_cases same : before.id = row.id
    · rw [if_pos same] at becomes
      exact .inl ⟨becomes.symm, before, member, same⟩
    · rw [if_neg same] at becomes
      subst becomes
      exact .inr ⟨member, same⟩
  · rintro (⟨rfl, before, member, same⟩ | ⟨member, different⟩)
    · exact ⟨before, member, if_pos same⟩
    · exact ⟨held, member, if_neg different⟩

theorem map_id_replaced
    (row : TemplateRow)
    (rows : List TemplateRow) :
    (replaced row rows).map TemplateRow.id = rows.map TemplateRow.id := by
  induction rows with
  | nil =>
      rfl
  | cons head rest inductionHypothesis =>
      unfold replaced at inductionHypothesis ⊢
      by_cases same : head.id = row.id
      · simp [same, inductionHypothesis]
      · simp [same, inductionHypothesis]

/-- What putting a row under its id does: it takes the place of any row that has it. -/
structure Puts (store : Store) (row : TemplateRow) (next : Store) : Prop where
  mem_iff :
    ∀ held,
      held ∈ next.templates ↔
        held = row ∨ (held ∈ store.templates ∧ held.id ≠ row.id)
  idsDistinct :
    (store.templates.map TemplateRow.id).Nodup →
      (next.templates.map TemplateRow.id).Nodup
  versions : next.versions = store.versions

/-- Adding a template puts a row under an id that was free. -/
theorem puts_addTemplate
    {store : Store}
    {row : TemplateRow}
    (absent : store.find? row.id = none) :
    store.Puts row (store.addTemplate row) := by
  have fresh := find?_eq_none_iff.mp absent
  constructor
  case mem_iff =>
    intro held
    constructor
    · intro member
      rcases List.mem_append.mp member with old | new
      · exact .inr ⟨old, fresh held old⟩
      · exact .inl (List.mem_singleton.mp new)
    · rintro (rfl | ⟨old, _⟩)
      · exact List.mem_append_right _ List.mem_cons_self
      · exact List.mem_append_left _ old
  case idsDistinct =>
    intro distinct
    simpa [addTemplate, List.nodup_append] using ⟨distinct, fresh⟩
  case versions =>
    rfl

/-- Changing a stored template puts a row under its id. -/
theorem puts_update
    {store : Store}
    {before row : TemplateRow}
    (stored : before ∈ store.templates)
    (sameId : before.id = row.id) :
    store.Puts row (store.update row) := by
  constructor
  case mem_iff =>
    intro held
    apply mem_replaced_iff.trans
    constructor
    · rintro (⟨same, _⟩ | old)
      · exact .inl same
      · exact .inr old
    · rintro (same | old)
      · exact .inl ⟨same, before, stored, sameId⟩
      · exact .inr old
  case idsDistinct =>
    intro distinct
    unfold update
    rw [map_id_replaced]
    exact distinct
  case versions =>
    rfl

/-- A version that is added belongs to its template alone. -/
theorem versionsOf_addVersion
    (store : Store)
    (version : VersionRow)
    (id : Text) :
    (store.addVersion version).versionsOf id =
      store.versionsOf id ++
        (if version.templateId = id then [version] else []) := by
  unfold versionsOf addVersion
  by_cases owner : version.templateId = id
  · simp [owner]
  · simp [owner]

theorem versionsOf_eq_nil
    {store : Store}
    {id : Text}
    (unowned : ∀ version ∈ store.versions, version.templateId ≠ id) :
    store.versionsOf id = [] := by
  unfold versionsOf
  rw [List.filter_eq_nil_iff]
  intro version member
  simpa using unowned version member

end ContractTemplates.Store
