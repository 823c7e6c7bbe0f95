import ContractTemplates.Proofs.Template.Schema

namespace ContractTemplates

/-!
# The two readers of a stored schema

A stored schema is read where a form is filled (`Schema.read`), and it is checked
as a field where the catalogue shows a template (`Summary.checkVariables`). Both go
through the items of a JSON array in the same way. They part where a text holds no
array but still no items: the empty text, the empty object and the empty string.
There a form is filled as if the template had no variables, while the template
cannot be shown. `TemplateRow.readersAgree_iff` says that these are all the texts
on which the readers differ.
-/

namespace Schema

/-- Whether a text holds no items without being an array. -/
def IsHollow (text : Text) : Prop :=
  text = [] ∨
    Json.read text = .ok (.object []) ∨
      Json.read text = .ok (.string [])

variable
  {text : Text}
  {value : Json}
  {definitions : List Definition}

/-- What is read of a text are the definitions that the items of its value describe. -/
theorem read_eq_ok_of_json
    (nonempty : text ≠ [])
    (found : Json.read text = .ok value) :
    read text = .ok definitions ↔
      ∃ data, items? value = some data ∧ checkEach data = .ok definitions := by
  unfold read
  rw [if_neg nonempty, found]
  dsimp only
  cases items? value with
  | none =>
      simp
  | some data =>
      simp

/-- What is shown of a text is the list of definitions that its value is. -/
theorem checkVariables_of_json
    (found : Json.read text = .ok value) :
    Summary.checkVariables (.string text) =
      Definition.checkList (Datum.ofJson value) := by
  unfold Summary.checkVariables
  dsimp only
  rw [Text.spelled_raw, found]

/-- Text is no definition, so data that begin with one describe no definitions. -/
theorem checkEach_string_ne_ok
    {name : RawText}
    {rest : List Datum} :
    checkEach (.string name :: rest) ≠ .ok definitions := by
  intro taken
  cases taken

/-- The definitions of the items of a value are the list that the value is. -/
theorem checkEach_items_iff
    (noObject : value ≠ .object [])
    (noString : value ≠ .string []) :
    (∃ data, items? value = some data ∧ checkEach data = .ok definitions) ↔
      Definition.checkList (Datum.ofJson value) = .ok definitions := by
  cases value with
  | array items =>
      constructor
      · rintro ⟨data, ⟨⟩, each⟩
        exact checkEach_eq_ok.mp each
      · intro listed
        exact ⟨_, rfl, checkEach_eq_ok.mpr listed⟩
  | object members =>
      cases members with
      | nil =>
          exact absurd rfl noObject
      | cons member rest =>
          constructor
          · rintro ⟨data, ⟨⟩, each⟩
            exact absurd each checkEach_string_ne_ok
          · intro impossible
            cases impossible
  | string characters =>
      cases characters with
      | nil =>
          exact absurd rfl noString
      | cons character rest =>
          constructor
          · rintro ⟨data, ⟨⟩, each⟩
            exact absurd each checkEach_string_ne_ok
          · intro impossible
            cases impossible
  | null | boolean | number =>
      constructor
      · rintro ⟨data, impossible, _⟩
        cases impossible
      · intro impossible
        cases impossible

/-- A text that is not hollow is read as it is shown. -/
theorem read_eq_ok_iff_shown
    (solid : ¬ IsHollow text) :
    read text = .ok definitions ↔
      Summary.checkVariables (.string text) = .ok definitions := by
  have nonempty : text ≠ [] :=
    fun empty => solid (.inl empty)
  cases found : Json.read text with
  | error fault =>
      unfold read Summary.checkVariables
      rw [if_neg nonempty]
      dsimp only
      rw [Text.spelled_raw, found]
      cases fault <;>
        simp [Checked.fail]
  | ok value =>
      rw [read_eq_ok_of_json nonempty found, checkVariables_of_json found]
      apply checkEach_items_iff
      · rintro rfl
        exact solid (.inr (.inl found))
      · rintro rfl
        exact solid (.inr (.inr found))

/-- A hollow text is read as a schema without definitions. -/
theorem IsHollow.read_eq_nil
    (hollow : IsHollow text) :
    read text = .ok [] := by
  by_cases empty : text = []
  · exact if_pos empty
  · rcases hollow with same | object | string
    · exact absurd same empty
    · exact (read_eq_ok_of_json empty object).mpr ⟨[], rfl, rfl⟩
    · exact (read_eq_ok_of_json empty string).mpr ⟨[], rfl, rfl⟩

/-- A hollow text is not shown. -/
theorem IsHollow.checkVariables_ne_ok
    (hollow : IsHollow text) :
    Summary.checkVariables (.string text) ≠ .ok definitions := by
  intro shown
  rcases hollow with rfl | object | string
  · cases shown
  · rw [checkVariables_of_json object] at shown
    cases shown
  · rw [checkVariables_of_json string] at shown
    cases shown

end Schema

namespace TemplateRow

variable
  {createdAt updatedAt : DateTime}
  {row : TemplateRow}
  {definitions : List Definition}

/-- A row has a summary of what is shown of its schema. -/
theorem summary_eq_ok
    {summary : Summary} :
    Summary.check (.map (row.attributes createdAt updatedAt)) = .ok summary ↔
      ∃ definitions, row.shownVariables = .ok definitions ∧
        row.summary createdAt definitions = summary := by
  show Summary.checkFields (row.attributes createdAt updatedAt) = _ ↔ _
  rw [checkFields_attributes_eq, Checked.map_eq_ok]
  simp only [Checked.within_eq_ok]

/-- A row has a detailed record of what is shown of its schema. -/
theorem detail_eq_ok
    {detail : Detail} :
    Detail.check (.map (row.attributes createdAt updatedAt)) = .ok detail ↔
      ∃ definitions, row.shownVariables = .ok definitions ∧
        row.detail createdAt updatedAt definitions = detail := by
  rw [check_attributes_eq, Checked.map_eq_ok]
  simp only [Checked.within_eq_ok]

/--
The readers of the schema of a row agree: where a form can be filled the row has a
summary and a detailed record with the definitions of the form, and a summary or a
detailed record holds the definitions of a form that can be filled.
-/
structure ReadersAgree
    (createdAt updatedAt : DateTime)
    (row : TemplateRow) :
    Prop where
  ofRead :
    ∀ definitions,
      Schema.read row.schema = .ok definitions →
        Summary.check (.map (row.attributes createdAt updatedAt)) =
            .ok (row.summary createdAt definitions) ∧
          Detail.check (.map (row.attributes createdAt updatedAt)) =
            .ok (row.detail createdAt updatedAt definitions)
  ofSummary :
    ∀ summary,
      Summary.check (.map (row.attributes createdAt updatedAt)) = .ok summary →
        Schema.read row.schema = .ok summary.definitions
  ofDetail :
    ∀ detail,
      Detail.check (.map (row.attributes createdAt updatedAt)) = .ok detail →
        Schema.read row.schema = .ok detail.summary.definitions

theorem readersAgree_of_solid
    (solid : ¬ Schema.IsHollow row.schema) :
    row.ReadersAgree createdAt updatedAt where
  ofRead definitions taken := by
    have shown := (Schema.read_eq_ok_iff_shown solid).mp taken
    exact ⟨checkFields_attributes createdAt updatedAt shown,
      check_attributes createdAt updatedAt shown⟩
  ofSummary summary checked := by
    obtain ⟨definitions, shown, rfl⟩ := summary_eq_ok.mp checked
    exact (Schema.read_eq_ok_iff_shown solid).mpr shown
  ofDetail detail checked := by
    obtain ⟨definitions, shown, rfl⟩ := detail_eq_ok.mp checked
    exact (Schema.read_eq_ok_iff_shown solid).mpr shown

/--
The readers of a schema agree exactly if the text is not hollow. A form for a hollow
schema is filled as for a template without variables, and such a template is shown
neither in the catalogue nor alone.
-/
theorem readersAgree_iff
    (createdAt updatedAt : DateTime)
    (row : TemplateRow) :
    (row.ReadersAgree createdAt updatedAt ↔ ¬ Schema.IsHollow row.schema) ∧
      (Schema.IsHollow row.schema →
        Schema.read row.schema = .ok [] ∧
          (∀ summary,
            Summary.check (.map (row.attributes createdAt updatedAt)) ≠
              .ok summary) ∧
          ∀ detail,
            Detail.check (.map (row.attributes createdAt updatedAt)) ≠
              .ok detail) := by
  have noSummary
      (hollow : Schema.IsHollow row.schema)
      (summary : Summary) :
      Summary.check (.map (row.attributes createdAt updatedAt)) ≠
        .ok summary := by
    intro checked
    obtain ⟨definitions, shown, _⟩ := summary_eq_ok.mp checked
    exact hollow.checkVariables_ne_ok shown
  have noDetail
      (hollow : Schema.IsHollow row.schema)
      (detail : Detail) :
      Detail.check (.map (row.attributes createdAt updatedAt)) ≠
        .ok detail := by
    intro checked
    obtain ⟨definitions, shown, _⟩ := detail_eq_ok.mp checked
    exact hollow.checkVariables_ne_ok shown
  refine ⟨⟨?_, readersAgree_of_solid⟩, fun hollow =>
    ⟨hollow.read_eq_nil, noSummary hollow, noDetail hollow⟩⟩
  intro agree hollow
  exact noSummary hollow _ (agree.ofRead [] hollow.read_eq_nil).1

/-- A row in which no schema has been stored. -/
def bare : TemplateRow where
  id := "tpl_bare".toList
  title := "Bare".toList
  description := none
  price := 0
  source := []
  schema := []
  version := 1
  isPublished := false

/-- The first moment of a year. -/
def newYear : DateTime :=
  ⟨⟨2024, 1, 1, by decide⟩, .midnight, none⟩

/-- A form for the bare row can be filled, but the row cannot be shown. -/
theorem bare_readers_differ :
    Schema.read bare.schema = .ok [] ∧
      Summary.check (.map (bare.attributes newYear newYear)) =
        .error [⟨[.field "variables".toList],
          .ruleBroken "invalid JSON".toList⟩] ∧
      ¬ bare.ReadersAgree newYear newYear := by
  refine ⟨rfl, rfl, ?_⟩
  intro agree
  have shown := (agree.ofRead [] rfl).1
  cases shown

end TemplateRow

end ContractTemplates
