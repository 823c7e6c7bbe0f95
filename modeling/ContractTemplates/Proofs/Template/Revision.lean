import ContractTemplates.Proofs.Template.SchemasReadable
import ContractTemplates.Proofs.Template.Standing

namespace ContractTemplates

/-!
# What makes a further version

The store compares the text of a schema, not the definitions in it. This text is read
back as the definitions with their halves merged, so two files store the same text exactly
if they have the same definitions once merged, however these are written in the files.
Hence a template that was imported from one file gets a further version from another one
exactly if the body or the merged definitions differ: `Store.version_after_edit`. An edit
that puts a character in place of its two halves therefore gives no further version.
-/

namespace SourceTemplate

/-- Two files store the same schema exactly if their definitions are the same once merged. -/
theorem IsDescribed.schema_eq_iff
    {template other : SourceTemplate}
    (described : template.IsDescribed)
    (describedOther : other.IsDescribed) :
    template.schema = other.schema ↔
      template.manifest.definitions.map Definition.merged =
        other.manifest.definitions.map Definition.merged := by
  constructor
  · intro same
    have readBack := described.read_schema
    rw [same, describedOther.read_schema] at readBack
    exact (Except.ok.inj readBack).symm
  · intro same
    unfold schema
    rw [← Schema.write_merged, same, Schema.write_merged]

/-- The first row of a template has other content than a file says if the files differ in it. -/
theorem contentDiffers_firstRow_iff
    {template edited : SourceTemplate}
    (described : template.IsDescribed)
    (describedEdited : edited.IsDescribed) :
    SyncState.contentDiffers edited template.firstRow = true ↔
      template.body ≠ edited.body ∨
        template.manifest.definitions.map Definition.merged ≠
          edited.manifest.definitions.map Definition.merged := by
  have schema := described.schema_eq_iff describedEdited
  rw [SyncState.contentDiffers, Bool.or_eq_true, decide_eq_true_eq,
    decide_eq_true_eq]
  exact or_congr Iff.rfl (not_congr schema)

end SourceTemplate

namespace SyncState

/-- Taking over a stored template renews its row and adds a version for other content. -/
theorem Takes.renews
    {template : SourceTemplate}
    {state next : SyncState}
    (step : Takes template state next)
    {row : TemplateRow}
    (held : state.store.find? template.manifest.id = some row) :
    next.store.find? template.manifest.id = some (renewed template row) ∧
      next.store.versions =
        state.store.versions ++
          if contentDiffers template row then
            [.ofTemplate (renewed template row) VersionRow.revisionLog]
          else
            [] := by
  have updated := SourceTemplate.find?_update_renewed held
  cases step with
  | created absent store report =>
      rw [held] at absent
      cases absent
  | kept row found same store report =>
      rw [held] at found
      cases found
      have sameContent : contentDiffers template row = false := by
        apply Bool.eq_false_iff.mpr
        intro newContent
        exact renewed_ne_of_contentDiffers newContent same
      simp [store, same, held, sameContent]
  | edited row found differs sameContent store report =>
      rw [held] at found
      cases found
      rw [store]
      exact ⟨updated, by simp [sameContent, Store.update]⟩
  | revised row found newContent store report =>
      rw [held] at found
      cases found
      rw [store]
      exact ⟨updated, by simp [newContent, Store.update, Store.addVersion]⟩

end SyncState

namespace Store

variable
  {store next : Store}
  {directory : Location}
  {files : Files}
  {report : SyncReport}
  {entry : FileEntry}
  {template : SourceTemplate}

/--
A template that was imported from one file and then from another one has its second
version exactly if the bodies or the merged definitions of the two files differ.
Otherwise it stays in its first version, and there is no further one.
-/
theorem version_after_edit
    {first second : Store}
    {directory' : Location}
    {files' : Files}
    {report' : SyncReport}
    {entry' : FileEntry}
    {edited : SourceTemplate}
    (listed : SourceFile.all directory files = [entry])
    (reading : SourceFile.read entry = .ok (some template))
    (listed' : SourceFile.all directory' files' = [entry'])
    (reading' : SourceFile.read entry' = .ok (some edited))
    (sameId : edited.manifest.id = template.manifest.id)
    (absent : store.find? template.manifest.id = none)
    (success : store.sync directory files = .ok (report, first))
    (success' : first.sync directory' files' = .ok (report', second)) :
    ∃ row,
      second.find? template.manifest.id = some row ∧
        (template.body ≠ edited.body ∨
            template.manifest.definitions.map Definition.merged ≠
              edited.manifest.definitions.map Definition.merged →
          row.version = 2 ∧
            second.versions =
              first.versions ++
                [.ofTemplate row VersionRow.revisionLog]) ∧
        (template.body = edited.body ∧
            template.manifest.definitions.map Definition.merged =
              edited.manifest.definitions.map Definition.merged →
          row.version = 1 ∧ second.versions = first.versions) := by
  have imported :=
    find?_sync_single_of_absent listed reading absent success
  have described : template.IsDescribed := ⟨entry, reading⟩
  have describedEdited : edited.IsDescribed := ⟨entry', reading'⟩
  have content :=
    SourceTemplate.contentDiffers_firstRow_iff described describedEdited
  obtain ⟨state, step, rfl, _⟩ :=
    takes_of_sync_single listed' reading' success'
  rw [← sameId] at imported ⊢
  obtain ⟨found, versions⟩ := step.renews imported
  refine ⟨_, found, ?_, ?_⟩
  · intro differs
    have newContent := content.mpr differs
    constructor
    · exact if_pos newContent
    · rw [versions, if_pos newContent]
      rfl
  · rintro ⟨sameBody, sameDefinitions⟩
    have sameContent :
        ¬ SyncState.contentDiffers edited template.firstRow = true := by
      intro newContent
      exact (content.mp newContent).elim (absurd sameBody)
        (absurd sameDefinitions)
    constructor
    · exact if_neg sameContent
    · rw [versions, if_neg sameContent, List.append_nil]
      rfl

/-- The template of `SourceFile.oneTemplate` under a new title and in other words. -/
def renamedFile : FileEntry :=
  .file
    (Text.utf8
      ("/*---\r\ntitle: 'B' # new\r\nid: a\r\nvariables: []\r\n" ++
        "---*/\r\nBody").toList)

/-- Another text with the same body and the same definitions adds no version. -/
theorem version_after_edit_ofRenamed :
    ∃ first second row,
      empty.sync [] SourceFile.oneTemplate = .ok (⟨["a".toList], []⟩, first) ∧
        first.sync [] [(["a.typ".toList], renamedFile)] =
          .ok (⟨[], ["a".toList]⟩, second) ∧
        second.find? "a".toList = some row ∧
        row.version = 1 ∧
        second.versions = first.versions := by
  let template : SourceTemplate :=
    ⟨⟨"a".toList, "A".toList, none, 0, false, []⟩, "Body".toList⟩
  let edited : SourceTemplate :=
    ⟨⟨"a".toList, "B".toList, none, 0, false, []⟩, "Body".toList⟩
  have listed :
      SourceFile.all [] SourceFile.oneTemplate =
        [.file (Text.utf8 "/*---\nid: a\ntitle: A\n---*/\nBody".toList)] :=
    SourceFile.all_single (by decide) _
  have listed' :
      SourceFile.all [] [(["a.typ".toList], renamedFile)] = [renamedFile] :=
    SourceFile.all_single (by decide) _
  have reading :
      SourceFile.described?
          (.file (Text.utf8 "/*---\nid: a\ntitle: A\n---*/\nBody".toList)) =
        some template := by
    decide +kernel
  have reading' : SourceFile.described? renamedFile = some edited := by
    decide +kernel
  have shown :
      ((empty.sync [] SourceFile.oneTemplate).toOption.bind fun first =>
        (first.2.sync [] [(["a.typ".toList], renamedFile)]).toOption.map
          fun second => (first.1, second.1)) =
        some (⟨["a".toList], []⟩, ⟨[], ["a".toList]⟩) := by
    unfold sync
    rw [listed, listed']
    decide +kernel
  obtain ⟨⟨report, first⟩, began, shown⟩ := Option.bind_eq_some_iff.mp shown
  obtain ⟨⟨report', second⟩, went, shown⟩ := Option.map_eq_some_iff.mp shown
  obtain ⟨rfl, rfl⟩ := Prod.mk.inj shown
  have success := eq_ok_of_toOption began
  have success' := eq_ok_of_toOption went
  obtain ⟨row, found, _, same⟩ :=
    version_after_edit listed
      (SourceFile.described?_eq_some_iff.mp reading) listed'
      (SourceFile.described?_eq_some_iff.mp reading') rfl rfl success success'
  obtain ⟨version, versions⟩ := same ⟨rfl, rfl⟩
  exact ⟨first, second, row, success, success', found, version, versions⟩

/-- A file with one variable and its label as it is spelled between double quotes. -/
def labelledFile (label : String) : FileEntry :=
  .file (Text.utf8
    ("/*---\nid: a\ntitle: A\nvariables:\n- name: v\n  type: text\n  label: \"" ++
      label ++ "\"\n---*/\nBody").toList)

/-- The template of `labelledFile` with a label. -/
def labelledTemplate (label : RawText) : SourceTemplate :=
  ⟨⟨"a".toList, "A".toList, none, 0, false,
    [⟨"v".toList, .text, label, false, none, none⟩]⟩, "Body".toList⟩

/-- A character in place of its two halves makes another label and no further version. -/
theorem merged_label_adds_no_version :
    ∃ first second row,
      SourceFile.read (labelledFile "\\ud83d\\ude00") =
          .ok (some (labelledTemplate [.half 0x3D, .half 0x600])) ∧
        SourceFile.read (labelledFile "😀") =
          .ok (some (labelledTemplate "😀".toList)) ∧
        (labelledTemplate [.half 0x3D, .half 0x600]).manifest.definitions ≠
          (labelledTemplate "😀".toList).manifest.definitions ∧
        empty.sync [] [(["a.typ".toList], labelledFile "\\ud83d\\ude00")] =
          .ok (⟨["a".toList], []⟩, first) ∧
        first.sync [] [(["a.typ".toList], labelledFile "😀")] =
          .ok (⟨[], []⟩, second) ∧
        second.find? "a".toList = some row ∧
        row.version = 1 := by
  have listed (label : String) :
      SourceFile.all [] [(["a.typ".toList], labelledFile label)] =
        [labelledFile label] :=
    SourceFile.all_single (by decide) _
  have halves :
      SourceFile.described? (labelledFile "\\ud83d\\ude00") =
        some (labelledTemplate [.half 0x3D, .half 0x600]) := by
    decide +kernel
  have whole :
      SourceFile.described? (labelledFile "😀") =
        some (labelledTemplate "😀".toList) := by
    decide +kernel
  have shown :
      ((empty.sync []
          [(["a.typ".toList], labelledFile "\\ud83d\\ude00")]).toOption.bind
        fun first =>
          (first.2.sync [] [(["a.typ".toList], labelledFile "😀")]).toOption.bind
            fun second =>
              (second.2.find? "a".toList).map fun row =>
                (first.1, second.1, row.version)) =
        some (⟨["a".toList], []⟩, ⟨[], []⟩, 1) := by
    unfold sync
    rw [listed, listed]
    decide +kernel
  obtain ⟨⟨report, first⟩, began, shown⟩ := Option.bind_eq_some_iff.mp shown
  obtain ⟨⟨report', second⟩, went, shown⟩ := Option.bind_eq_some_iff.mp shown
  obtain ⟨row, found, shown⟩ := Option.map_eq_some_iff.mp shown
  simp only [Prod.mk.injEq] at shown
  obtain ⟨rfl, rfl, version⟩ := shown
  exact ⟨first, second, row, SourceFile.described?_eq_some_iff.mp halves,
    SourceFile.described?_eq_some_iff.mp whole, by decide +kernel,
    eq_ok_of_toOption began, eq_ok_of_toOption went, found, version⟩

end Store

end ContractTemplates
