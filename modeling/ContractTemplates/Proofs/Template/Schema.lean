import ContractTemplates.Proofs.Variable.Definition
import ContractTemplates.Service.Response
import ContractTemplates.Template.Manifest
import ContractTemplates.Template.Schema

namespace ContractTemplates

/-!
# Stored schemas say what was stored

The schema that is stored for the definitions of a manifest is read as the same
definitions, both where a form is filled and where the catalogue shows a template. Only
two halves that were spelled next to each other come back as the character that they
make up. `Manifest.definitions_stored` says so for every manifest that is accepted.
-/

namespace Schema

theorem isWritable_of_isWritableDefault
    {value : DefaultValue}
    (writable : isWritableDefault value = true) :
    Json.IsWritable value.toJson := by
  cases value with
  | text value =>
      exact trivial
  | boolean value =>
      exact trivial
  | number value =>
      cases value with
      | integer value =>
          simp only [isWritableDefault, decide_eq_true_eq] at writable
          simp only [DefaultValue.toJson, Json.IsWritable, Json.IsWritableNumber]
          generalize Nat.pow 10 Numeral.digitLimit = bound at *
          exact writable
      | double value =>
          exact trivial

theorem hasWritableDefault_of_isWritable
    {definitions : List Definition}
    {definition : Definition}
    (writable : isWritable definitions = true)
    (member : definition ∈ definitions) :
    definition.HasWritableDefault := by
  intro value held
  have checked := List.all_eq_true.mp writable definition member
  rw [Option.mem_def.mp held] at checked
  exact isWritable_of_isWritableDefault checked

/-- The JSON value of writable definitions can be written. -/
theorem isWritable_toJson
    {definitions : List Definition}
    (writable : ∀ definition ∈ definitions, definition.HasWritableDefault) :
    Json.IsWritable (toJson definitions) := by
  induction definitions with
  | nil =>
      exact trivial
  | cons definition rest inductionHypothesis =>
      exact ⟨Definition.isWritable_toJson
          (writable definition List.mem_cons_self),
        inductionHypothesis fun other member =>
          writable other (List.mem_cons_of_mem _ member)⟩

/-- The JSON value of definitions, merged, is that of the definitions merged. -/
theorem merged_toJson
    (definitions : List Definition) :
    (toJson definitions).merged = toJson (definitions.map Definition.merged) := by
  refine congrArg Json.array ?_
  induction definitions with
  | nil =>
      rfl
  | cons definition rest inductionHypothesis =>
      rw [List.map_cons, List.map_cons, List.map_cons, Json.mergedItems,
        definition.toJson_merged, inductionHypothesis]

/-- Definitions are written like the same definitions merged. -/
theorem write_merged
    (definitions : List Definition) :
    write (definitions.map Definition.merged) = write definitions := by
  unfold write
  rw [← merged_toJson, Json.write_merged]

/-- Written definitions are read as the JSON value of the definitions merged. -/
theorem read_write_json
    {definitions : List Definition}
    (writable : isWritable definitions = true) :
    Json.read (write definitions) =
      .ok (toJson (definitions.map Definition.merged)) := by
  have readBack : Json.read (write definitions) = .ok (toJson definitions).merged :=
    Json.read_write
      (isWritable_toJson fun _ member =>
        hasWritableDefault_of_isWritable writable member)
  rw [readBack, merged_toJson]

/-- Valid definitions stay valid when they are merged. -/
theorem valid_merged
    {definitions : List Definition}
    (valid : ∀ definition ∈ definitions, definition.IsValid) :
    ∀ definition ∈ definitions.map Definition.merged, definition.IsValid := by
  intro definition member
  obtain ⟨given, among, rfl⟩ := List.mem_map.mp member
  exact (valid given among).merged

/--
Data are taken one by one where a form is filled and as the items of a list where a
template is shown. The reported issues differ, but both take the same data.
-/
theorem checkEach_eq_ok
    {data : List Datum}
    {definitions : List Definition} :
    checkEach data = .ok definitions ↔
      Checked.items Definition.check data = .ok definitions := by
  rw [Checked.items_eq_ok]
  induction data generalizing definitions with
  | nil =>
      rw [List.forall₂_nil_left_iff]
      exact ⟨fun same => (Except.ok.inj same).symm, fun same => same ▸ rfl⟩
  | cons datum rest inductionHypothesis =>
      rw [List.forall₂_cons_left_iff, checkEach]
      cases checked : Definition.check datum with
      | error issues =>
          exact ⟨nofun, fun ⟨_, _, impossible, _⟩ => nomatch impossible⟩
      | ok first =>
          dsimp only
          cases others : checkEach rest with
          | error fault =>
              refine ⟨nofun, fun ⟨_, found, _, each, _⟩ => ?_⟩
              rw [inductionHypothesis.mpr each] at others
              cases others
          | ok found =>
              have each := inductionHypothesis.mp others
              constructor
              · rintro ⟨⟩
                exact ⟨first, found, rfl, each, rfl⟩
              · rintro ⟨_, _, ⟨⟩, each, rfl⟩
                rw [← others, inductionHypothesis.mpr each]
                rfl

/-- Merging changes no name of a valid definition. -/
theorem names_merged
    {definitions : List Definition}
    (valid : ∀ definition ∈ definitions, definition.IsValid) :
    (definitions.map Definition.merged).map Definition.name =
      definitions.map Definition.name := by
  rw [List.map_map]
  refine List.map_congr_left fun definition member => ?_
  obtain ⟨name, same, _⟩ := (valid definition member).isNamed
  show definition.name.merged = definition.name
  rw [same, RawText.merged_raw]

/-- Merging changes no definitions without halves. -/
theorem merged_of_areText
    {definitions : List Definition}
    (areText : ∀ definition ∈ definitions, definition.isText = true) :
    definitions.map Definition.merged = definitions := by
  have each :
      definitions.map Definition.merged = definitions.map id :=
    List.map_congr_left fun definition member =>
      Definition.merged_of_isText (areText definition member)
  exact each.trans (List.map_id definitions)

/-- Valid definitions are read back from the stored text, merged. -/
theorem read_write
    {definitions : List Definition}
    (valid : ∀ definition ∈ definitions, definition.IsValid)
    (writable : isWritable definitions = true) :
    read (write definitions) = .ok (definitions.map Definition.merged) := by
  have nonempty : write definitions ≠ [] :=
    List.cons_ne_nil _ _
  have each := checkEach_eq_ok.mpr (Definition.checkList_toJson (valid_merged valid))
  unfold read
  rw [if_neg nonempty, read_write_json writable]
  exact each

/-- Valid definitions are shown as they were stored, merged. -/
theorem checkVariables_write
    {definitions : List Definition}
    (valid : ∀ definition ∈ definitions, definition.IsValid)
    (writable : isWritable definitions = true) :
    Summary.checkVariables (.string (write definitions)) =
      .ok (definitions.map Definition.merged) := by
  have each := Definition.checkList_toJson (valid_merged valid)
  unfold Summary.checkVariables
  dsimp only
  rw [Text.spelled_raw, read_write_json writable]
  exact each

end Schema

namespace TemplateRow

/-- The attributes of a row by their names, with the times that are kept beside it. -/
def attributes (createdAt updatedAt : DateTime) (row : TemplateRow) :
    List (Datum × Datum) := [
  (.string "id".toList, .string row.id),
  (.string "title".toList, .string row.title),
  (.string "description".toList, (row.description.map Datum.string).getD .null),
  (.string "price".toList, Datum.integer row.price),
  (.string "typst_content".toList, .string row.source),
  (.string "variables".toList, .string row.schema),
  (.string "current_version".toList, Datum.integer row.version),
  (.string "is_published".toList, .boolean row.isPublished),
  (.string "created_at".toList, .dateTime createdAt),
  (.string "updated_at".toList, .dateTime updatedAt)]

/-- The summary of a row whose schema says these definitions. -/
def summary (createdAt : DateTime) (row : TemplateRow)
    (definitions : List Definition) : Summary where
  id := row.id
  title := row.title
  description := row.description
  price := row.price
  definitions := definitions
  isPublished := row.isPublished
  createdAt := createdAt

/-- The detailed record of a row whose schema says these definitions. -/
def detail (createdAt updatedAt : DateTime) (row : TemplateRow)
    (definitions : List Definition) : Detail where
  summary := row.summary createdAt definitions
  typstContent := row.source
  currentVersion := row.version
  updatedAt := updatedAt

variable
  (createdAt updatedAt : DateTime)

/--
A row has a summary exactly if its schema can be shown, and all that can be wrong
with it is reported under the name of the schema.
-/
theorem checkFields_attributes_eq
    (row : TemplateRow) :
    Summary.checkFields (row.attributes createdAt updatedAt) =
      (Checked.within (.field "variables".toList) row.shownVariables).map
        (row.summary createdAt) := by
  have schemaShown :
      Validation.required ["variables".toList] Summary.checkVariables
          (row.attributes createdAt updatedAt) =
        Checked.within (.field "variables".toList) row.shownVariables :=
    rfl
  unfold Summary.checkFields
  dsimp only
  rw [schemaShown]
  generalize Checked.within _ row.shownVariables = shown
  obtain ⟨id, title, description, price, source, schema, version, isPublished⟩ :=
    row
  cases shown with
  | ok definitions =>
      cases description with
      | none =>
          rfl
      | some text =>
          rfl
  | error issues =>
      cases description with
      | none =>
          exact congrArg Except.error (List.append_nil issues)
      | some text =>
          exact congrArg Except.error (List.append_nil issues)

/-- A row has a detailed record exactly if its schema can be shown. -/
theorem check_attributes_eq
    (row : TemplateRow) :
    Detail.check (.map (row.attributes createdAt updatedAt)) =
      (Checked.within (.field "variables".toList) row.shownVariables).map
        (row.detail createdAt updatedAt) := by
  unfold Detail.check
  show ((Summary.checkFields (row.attributes createdAt updatedAt)).both _).map _ = _
  rw [checkFields_attributes_eq createdAt updatedAt row]
  cases Checked.within (.field "variables".toList) row.shownVariables with
  | ok definitions =>
      rfl
  | error issues =>
      exact congrArg Except.error (List.append_nil issues)

variable
  {row : TemplateRow}
  {definitions : List Definition}

theorem checkFields_attributes
    (shown : row.shownVariables = .ok definitions) :
    Summary.checkFields (row.attributes createdAt updatedAt) =
      .ok (row.summary createdAt definitions) := by
  rw [checkFields_attributes_eq, shown]
  rfl

/-- The attributes of a row are checked to be its detailed record. -/
theorem check_attributes
    (shown : row.shownVariables = .ok definitions) :
    Detail.check (.map (row.attributes createdAt updatedAt)) =
      .ok (row.detail createdAt updatedAt definitions) := by
  rw [check_attributes_eq, shown]
  rfl

end TemplateRow

namespace Manifest

/-- The definitions of an accepted list are valid and have distinct names. -/
theorem valid_of_checkVariables
    {datum : Datum}
    {definitions : List Definition}
    (accepted : checkVariables datum = .ok definitions) :
    (∀ definition ∈ definitions, definition.IsValid) ∧
      (definitions.map Definition.name).Nodup := by
  obtain ⟨found, checked, distinct⟩ := Checked.bind_eq_ok.mp accepted
  split at distinct
  next unrepeated =>
    cases distinct
    refine ⟨?_, ((firstRepeated?_eq_none_iff [] _).mp unrepeated).1⟩
    intro definition member
    obtain ⟨item, itemChecked⟩ :=
      Validation.exists_of_list_eq_ok checked member
    exact Definition.isValid_of_check itemChecked
  next name repeated =>
    cases distinct

/-- The definitions of an accepted manifest are valid and have distinct names. -/
theorem valid_of_check
    {datum : Datum}
    {manifest : Manifest}
    (accepted : check datum = .ok manifest) :
    (∀ definition ∈ manifest.definitions, definition.IsValid) ∧
      (manifest.definitions.map Definition.name).Nodup := by
  obtain ⟨entries, _, fields⟩ := Checked.bind_eq_ok.mp accepted
  obtain ⟨⟨id, title, description, price, published, definitions⟩, parts, rfl⟩ :=
    Checked.map_eq_ok.mp fields
  have definitionsOk :=
    (Checked.both_eq_ok.mp
      (Checked.both_eq_ok.mp
        (Checked.both_eq_ok.mp
          (Checked.both_eq_ok.mp
            (Checked.both_eq_ok.mp parts).2).2).2).2).2
  rcases Validation.of_optional_eq_ok definitionsOk with none | ⟨given, checked⟩
  · dsimp only
    rw [none]
    exact ⟨fun definition member => (List.not_mem_nil member).elim,
      List.nodup_nil⟩
  · exact valid_of_checkVariables checked

/--
What a row says of its variables once the schema of an accepted manifest has been
stored in it: the definitions of the manifest, in the same order and with
defaults of the same kind, wherever the schema is read. Only where their strings have
halves of characters can they differ, and then in nothing but that the halves are
merged.
-/
theorem definitions_stored
    {datum : Datum}
    {manifest : Manifest}
    {row : TemplateRow}
    (accepted : check datum = .ok manifest)
    (writable : Schema.isWritable manifest.definitions = true)
    (stored : row.schema = Schema.write manifest.definitions)
    (createdAt updatedAt : DateTime) :
    ∃ definitions,
      definitions = manifest.definitions.map Definition.merged ∧
        ((∀ definition ∈ manifest.definitions, definition.isText = true) →
          definitions = manifest.definitions) ∧
        Schema.read row.schema = .ok definitions ∧
        Summary.check (.map (row.attributes createdAt updatedAt)) =
          .ok (row.summary createdAt definitions) ∧
        Detail.check (.map (row.attributes createdAt updatedAt)) =
          .ok (row.detail createdAt updatedAt definitions) ∧
        definitions.map Definition.name = manifest.definitions.map Definition.name ∧
        (definitions.map Definition.name).Nodup ∧
        ∀ definition ∈ definitions,
          definition.kind = .select → definition.choices ≠ [] := by
  obtain ⟨valid, distinct⟩ := valid_of_check accepted
  have shown :
      row.shownVariables = .ok (manifest.definitions.map Definition.merged) := by
    unfold TemplateRow.shownVariables
    rw [stored]
    exact Schema.checkVariables_write valid writable
  have sameNames := Schema.names_merged valid
  refine ⟨_, rfl, Schema.merged_of_areText, ?_,
    TemplateRow.checkFields_attributes createdAt updatedAt shown,
    TemplateRow.check_attributes createdAt updatedAt shown, sameNames, ?_, ?_⟩
  · rw [stored]
    exact Schema.read_write valid writable
  · rw [sameNames]
    exact distinct
  · intro definition member
    exact (Schema.valid_merged valid definition member).hasChoices

/-- The metadata of a lease with a rent and a choice of terms. -/
def leaseMetadata : Datum :=
  .map [
    (.string "id".toList, .string "tpl_lease".toList),
    (.string "title".toList, .string "Lease".toList),
    (.string "variables".toList, .list [
      .map [
        (.string "name".toList, .string "rent".toList),
        (.string "type".toList, .string "number".toList),
        (.string "label".toList, .string "Rent".toList),
        (.string "default_value".toList, Datum.integer 750)],
      .map [
        (.string "name".toList, .string "term".toList),
        (.string "type".toList, .string "select".toList),
        (.string "label".toList, .string "Term".toList),
        (.string "options".toList, .list [.string "yearly".toList])]])]

/-- The manifest of the lease. -/
def lease : Manifest where
  id := "tpl_lease".toList
  title := "Lease".toList
  description := none
  price := 0
  published := false
  definitions := [
    ⟨"rent".toList, .number, "Rent".toList, false,
      some (.number (.integer 750)), none⟩,
    ⟨"term".toList, .select, "Term".toList, false, none,
      some ["yearly".toList]⟩]

/-- The row of the lease. -/
def leaseRow : TemplateRow where
  id := lease.id
  title := lease.title
  description := lease.description
  price := lease.price
  source := []
  schema := Schema.write lease.definitions
  version := 1
  isPublished := lease.published

/-- The definitions of the lease are read from its row. -/
theorem lease_definitions_stored :
    check leaseMetadata = .ok lease ∧
      Schema.isWritable lease.definitions = true ∧
      Schema.read leaseRow.schema = .ok lease.definitions := by
  have accepted : check leaseMetadata = .ok lease :=
    rfl
  have writable : Schema.isWritable lease.definitions = true := by
    decide +kernel
  have day : DateTime :=
    ⟨⟨2024, 1, 1, by decide⟩, .midnight, none⟩
  have stored : leaseRow.schema = Schema.write lease.definitions :=
    rfl
  obtain ⟨definitions, _, sameOfText, readable, _⟩ :=
    definitions_stored accepted writable stored day day
  rw [sameOfText (by decide)] at readable
  exact ⟨accepted, writable, readable⟩

end Manifest

end ContractTemplates
