import ContractTemplates.Proofs.Template.Schema
import ContractTemplates.Proofs.Template.SyncStep

namespace ContractTemplates

/-!
# Readable schemas

A file is taken over only if its manifest is accepted and its definitions can be
written, so every schema in a store that was filled by syncs alone was written for
valid definitions (`Store.schemasWritten_afterSyncs`). Such a schema is read back
where a form is filled, and it is shown in the catalogue.
-/

namespace Schema

/-- Whether a text is what is stored for definitions that are valid and merged. -/
structure IsWritten (text : Text) (definitions : List Definition) : Prop where
  valid : ∀ definition ∈ definitions, definition.IsValid
  writable : isWritable definitions = true
  whole : definitions.map Definition.merged = definitions
  written : text = write definitions

namespace IsWritten

variable
  {text : Text}
  {definitions : List Definition}

theorem read
    (stored : IsWritten text definitions) :
    Schema.read text = .ok definitions := by
  rw [stored.written, read_write stored.valid stored.writable, stored.whole]

theorem shown
    (stored : IsWritten text definitions) :
    Summary.checkVariables (.string text) = .ok definitions := by
  rw [stored.written, checkVariables_write stored.valid stored.writable,
    stored.whole]

end IsWritten

theorem isWritable_merged
    (definitions : List Definition) :
    isWritable (definitions.map Definition.merged) = isWritable definitions := by
  have sameDefault (value : DefaultValue) :
      isWritableDefault value.merged = isWritableDefault value := by
    cases value <;>
      rfl
  simp only [isWritable, List.all_map, Definition.merged, Option.all_map,
    Function.comp_def, sameDefault]

/-- What is stored for valid definitions is what is stored for them merged. -/
theorem isWritten_write
    {definitions : List Definition}
    (valid : ∀ definition ∈ definitions, definition.IsValid)
    (writable : isWritable definitions = true) :
    IsWritten (write definitions) (definitions.map Definition.merged) where
  valid := valid_merged valid
  writable := (isWritable_merged definitions).trans writable
  whole := by
    simp [Function.comp_def]
  written := (write_merged definitions).symm

end Schema

namespace SourceFile

/-- A text that describes a template has an accepted manifest that can be written. -/
theorem manifest_of_ofText
    {text : Text}
    {template : SourceTemplate}
    (described : ofText text = .ok (some template)) :
    ∃ metadata,
      Manifest.check metadata = .ok template.manifest ∧
        Schema.isWritable template.manifest.definitions = true := by
  unfold ofText at described
  split at described
  next => cases described
  next error malformed =>
    split at described
    · cases described
    · cases described
  next frontmatter found =>
    split at described
    next => cases described
    next metadata =>
      split at described
      next => cases described
      next manifest accepted =>
        split at described
        next writable =>
          cases described
          exact ⟨_, accepted, writable⟩
        next => cases described

end SourceFile

namespace SourceTemplate

/-- The schema of a template that a file describes was written for its definitions, merged. -/
theorem IsDescribed.isWritten_schema
    {template : SourceTemplate}
    (described : template.IsDescribed) :
    Schema.IsWritten template.schema
      (template.manifest.definitions.map Definition.merged) := by
  obtain ⟨entry, reading⟩ := described
  cases entry with
  | directory =>
      cases reading
  | file content =>
      unfold SourceFile.read at reading
      dsimp only at reading
      split at reading
      next => cases reading
      next text decoded =>
        obtain ⟨metadata, accepted, writable⟩ :=
          SourceFile.manifest_of_ofText reading
        exact Schema.isWritten_write (Manifest.valid_of_check accepted).1 writable

/-- The schema of a template that a file describes is read as its definitions, merged. -/
theorem IsDescribed.read_schema
    {template : SourceTemplate}
    (described : template.IsDescribed) :
    Schema.read template.schema =
      .ok (template.manifest.definitions.map Definition.merged) :=
  described.isWritten_schema.read

end SourceTemplate

namespace Store

/-- Whether the schema of every stored template was written for valid definitions. -/
def SchemasWritten (store : Store) : Prop :=
  ∀ row ∈ store.templates, ∃ definitions, Schema.IsWritten row.schema definitions

/-- Whether the schema of every stored template can be read. -/
def SchemasReadable (store : Store) : Prop :=
  ∀ row ∈ store.templates,
    ∃ definitions, Schema.read row.schema = .ok definitions

theorem SchemasWritten.update
    {store : Store}
    {row : TemplateRow}
    {definitions : List Definition}
    (written : store.SchemasWritten)
    (schema : Schema.IsWritten row.schema definitions) :
    (store.update row).SchemasWritten := by
  intro held member
  obtain ⟨before, present, rfl⟩ := List.mem_map.mp member
  split
  · exact ⟨definitions, schema⟩
  · exact written before present

/-- Taking a template over leaves written schemas only. -/
theorem SchemasWritten.takes
    {template : SourceTemplate}
    {state next : SyncState}
    (described : template.IsDescribed)
    (step : SyncState.Takes template state next)
    (written : state.store.SchemasWritten) :
    next.store.SchemasWritten := by
  have schema := described.isWritten_schema
  have renewed (row : TemplateRow) :
      Schema.IsWritten (SyncState.renewed template row).schema
        (template.manifest.definitions.map Definition.merged) :=
    schema
  cases step with
  | created absent store report =>
      rw [store]
      intro held member
      rcases List.mem_append.mp member with before | new
      · exact written held before
      · rw [List.mem_singleton.mp new]
        exact ⟨_, schema⟩
  | kept row found same store report =>
      rw [store]
      exact written
  | edited row found differs sameContent store report =>
      rw [store]
      exact written.update (renewed row)
  | revised row found newContent store report =>
      rw [store]
      exact written.update (renewed row)

/-- After any syncs of an empty store every schema was written for valid definitions. -/
theorem schemasWritten_afterSyncs
    (syncs : List (Location × Files)) :
    (empty.afterSyncs syncs).SchemasWritten := by
  refine afterSyncs_keeps SchemasWritten.takes syncs ?_
  intro row member
  cases member

/-- After any syncs of an empty store every schema can be read. -/
theorem schemasReadable_afterSyncs
    (syncs : List (Location × Files)) :
    (empty.afterSyncs syncs).SchemasReadable := by
  intro row member
  obtain ⟨definitions, stored⟩ := schemasWritten_afterSyncs syncs row member
  exact ⟨definitions, stored.read⟩

end Store

end ContractTemplates
