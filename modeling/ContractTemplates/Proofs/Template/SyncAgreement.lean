import ContractTemplates.Proofs.Template.Advance
import ContractTemplates.Proofs.Template.SchemasReadable

namespace ContractTemplates

/-!
# The store agrees with the files

A row agrees with a template if its six columns that a file describes are those of
the file. After a sync that goes through, the row of every id that one file alone
declares agrees with this file, rows of ids that no file declares are as they were,
and the report says just what was created and what was changed, in the order of
the locations: `Store.sync_agrees_with_files`. The schema of the row is read as the
definitions of the file with their halves merged, which are others wherever a file
spells the two halves of a character: `Store.default_merged_to_option`.
-/

namespace SourceFile

/-- Whether an entry describes a template with an id. -/
def Declares (entry : FileEntry) (id : Text) : Prop :=
  ∃ template, read entry = .ok (some template) ∧ template.manifest.id = id

theorem declaring_append
    (id : Text)
    (before later : List FileEntry) :
    declaring id (before ++ later) =
      declaring id before ++ declaring id later := by
  simp [declaring]

theorem declaring_eq_nil_iff
    {id : Text}
    {entries : List FileEntry} :
    declaring id entries = [] ↔ ∀ entry ∈ entries, ¬ Declares entry id := by
  induction entries with
  | nil =>
      simp [declaring]
  | cons entry rest inductionHypothesis =>
      simp only [List.forall_mem_cons, ← inductionHypothesis]
      cases described : described? entry with
      | none =>
          have silent : ¬ Declares entry id := by
            rintro ⟨template, reading, _⟩
            rw [described?_eq_some_iff.mpr reading] at described
            cases described
          simp [declaring, described, silent]
      | some template =>
          have reading := described?_eq_some_iff.mp described
          have declares : Declares entry id ↔ template.manifest.id = id := by
            simp [Declares, reading]
          by_cases same : template.manifest.id = id
          · simp [declaring, described, declares, same]
          · simp [declaring, described, declares, same]

/-- A file that declares its id alone is the one that declares it. -/
theorem declaring_of_alone
    {before later : List FileEntry}
    {entry : FileEntry}
    {template : SourceTemplate}
    (reading : read entry = .ok (some template))
    (alone :
      ∀ other ∈ before ++ later, ¬ Declares other template.manifest.id) :
    declaring template.manifest.id (before ++ entry :: later) =
      [template] := by
  have none := declaring_eq_nil_iff.mpr alone
  rw [declaring_append, List.append_eq_nil_iff] at none
  rw [declaring_append, declaring_cons_self reading, none.1, none.2]
  rfl

/--
Whether ids are those that some template files of a directory declare, in the order
of their locations.
-/
def InPathOrder (directory : Location) (files : Files) (ids : List Text) : Prop :=
  ∃ listed places : List (Location × FileEntry),
    listed.Perm
        ((files.below directory).filter fun entry => isNamed entry.1) ∧
      listed.Pairwise (fun a b => Files.locationLe a.1 b.1) ∧
      places.Sublist listed ∧
      ids = describedIds (places.map Prod.snd)

/-- Template files are listed in the order of their locations. -/
theorem inPathOrder_of_sublist
    {directory : Location}
    {files : Files}
    {chosen : List FileEntry}
    (sublist : chosen.Sublist (all directory files)) :
    InPathOrder directory files (describedIds chosen) := by
  obtain ⟨places, among, rfl⟩ := List.sublist_map_iff.mp sublist
  have sorted :
      (((files.below directory).filter fun entry =>
          isNamed entry.1).mergeSort fun a b =>
            Files.locationLe a.1 b.1).Pairwise
        (fun a b => Files.locationLe a.1 b.1) := by
    apply List.pairwise_mergeSort
    · intro a b c
      exact Files.locationLe_trans
    · intro a b
      exact Files.locationLe_total a.1 b.1
  exact ⟨_, places, List.mergeSort_perm .., sorted, among, rfl⟩

end SourceFile

namespace SourceTemplate

/-- Whether the columns of a row that a file describes are those of the file. -/
structure Agrees (template : SourceTemplate) (row : TemplateRow) : Prop where
  title : row.title = template.manifest.title
  description : row.description = template.manifest.description
  price : row.price = template.manifest.price
  isPublished : row.isPublished = template.manifest.published
  source : row.source = template.body
  schema : row.schema = template.schema

theorem agrees_firstRow
    (template : SourceTemplate) :
    template.Agrees template.firstRow :=
  ⟨rfl, rfl, rfl, rfl, rfl, rfl⟩

theorem agrees_renewed
    (template : SourceTemplate)
    (row : TemplateRow) :
    template.Agrees (SyncState.renewed template row) :=
  ⟨rfl, rfl, rfl, rfl, rfl, rfl⟩

/-- A row agrees with a file exactly if the file makes nothing else of it. -/
theorem agrees_iff_renewed_eq
    {template : SourceTemplate}
    {row : TemplateRow} :
    template.Agrees row ↔ SyncState.renewed template row = row := by
  constructor
  · rintro ⟨title, description, price, isPublished, source, schema⟩
    have sameContent : SyncState.contentDiffers template row = false := by
      simp [SyncState.contentDiffers, source, schema]
    simp [SyncState.renewed, sameContent, ← title, ← description, ← price,
      ← isPublished, ← source, ← schema]
  · intro same
    rw [← same]
    exact template.agrees_renewed row

end SourceTemplate

namespace Standing

/-- A file brings its template into agreement. -/
theorem agrees_take
    (standing : Standing)
    (template : SourceTemplate) :
    ∃ row, (standing.take template).row = some row ∧ template.Agrees row := by
  cases held : standing.row with
  | none =>
      rw [take_of_absent template held]
      exact ⟨_, rfl, template.agrees_firstRow⟩
  | some row =>
      by_cases same : SyncState.renewed template row = row
      · rw [take_of_same template held same]
        exact ⟨row, held, SourceTemplate.agrees_iff_renewed_eq.mpr same⟩
      · rw [take_of_differs template held same]
        exact ⟨_, rfl, template.agrees_renewed row⟩

/-- A file changes a template exactly if the stored row does not agree with it. -/
theorem updated_take_ne_iff
    (standing : Standing)
    (template : SourceTemplate) :
    (standing.take template).updated ≠ standing.updated ↔
      ∃ row, standing.row = some row ∧ ¬ template.Agrees row := by
  cases held : standing.row with
  | none =>
      simp [take_of_absent template held]
  | some row =>
      by_cases same : SyncState.renewed template row = row
      · simp [take_of_same template held same,
          SourceTemplate.agrees_iff_renewed_eq, same]
      · simp [take_of_differs template held same,
          SourceTemplate.agrees_iff_renewed_eq, same]

end Standing

namespace SyncState

theorem Takes.created_report
    {template : SourceTemplate}
    {state next : SyncState}
    (step : Takes template state next) :
    next.report.created = state.report.created ∨
      next.report.created =
        state.report.created ++ [template.manifest.id] := by
  cases step with
  | created absent store report =>
      exact .inr (by rw [report])
  | kept row found same store report =>
      exact .inl (by rw [report])
  | edited row found differs sameContent store report =>
      exact .inl (by rw [report])
  | revised row found newContent store report =>
      exact .inl (by rw [report])

theorem Takes.updated_report
    {template : SourceTemplate}
    {state next : SyncState}
    (step : Takes template state next) :
    next.report.updated = state.report.updated ∨
      next.report.updated =
        state.report.updated ++ [template.manifest.id] := by
  cases step with
  | created absent store report =>
      exact .inl (by rw [report])
  | kept row found same store report =>
      exact .inl (by rw [report])
  | edited row found differs sameContent store report =>
      obtain ⟨_, sameId⟩ := Store.mem_of_find?_eq_some found
      exact .inr (by rw [report, sameId])
  | revised row found newContent store report =>
      obtain ⟨_, sameId⟩ := Store.mem_of_find?_eq_some found
      exact .inr (by rw [report, sameId])

/--
A list of the report to which a step adds nothing but the id of its template grows in
a run by ids of the files that it goes over, in their order.
-/
theorem report_of_takeFiles
    (named : SyncReport → List Text)
    (step :
      ∀ {template state next},
        Takes template state next →
        named next.report = named state.report ∨
          named next.report = named state.report ++ [template.manifest.id])
    {state next : SyncState}
    {entries : List FileEntry}
    (success : state.takeFiles entries = .ok next) :
    ∃ chosen : List FileEntry,
      chosen.Sublist entries ∧
        named next.report =
          named state.report ++ SourceFile.describedIds chosen := by
  induction entries generalizing state with
  | nil =>
      cases success
      exact ⟨[], .slnil, (List.append_nil _).symm⟩
  | cons entry rest inductionHypothesis =>
      obtain ⟨middle, first, later⟩ := takeFiles_cons_eq_ok.mp success
      obtain ⟨chosen, among, grown⟩ := inductionHypothesis later
      rcases takeFile_eq_ok first with
        ⟨_, rfl⟩ | ⟨template, reading, taking⟩
      · exact ⟨chosen, among.cons entry, grown⟩
      · rcases step (takes_of_take taking) with same | grows
        · exact ⟨chosen, among.cons entry, by rw [grown, same]⟩
        · refine ⟨entry :: chosen, among.cons_cons entry, ?_⟩
          rw [grown, grows,
            SourceFile.describedIds_cons_of_described reading,
            List.append_assoc]
          rfl

end SyncState

namespace Store

variable
  {store next : Store}
  {directory : Location}
  {files : Files}
  {report : SyncReport}

/-- The lists of a report are in the order of the locations of the files. -/
theorem inPathOrder_of_sync
    (success : store.sync directory files = .ok (report, next)) :
    SourceFile.InPathOrder directory files report.created ∧
      SourceFile.InPathOrder directory files report.updated := by
  obtain ⟨state, _, running, _, _, rfl⟩ := syncEntries_eq_ok success
  obtain ⟨chosen, among, created⟩ :=
    SyncState.report_of_takeFiles SyncReport.created
      (fun step => step.created_report) running
  obtain ⟨others, amongOthers, updated⟩ :=
    SyncState.report_of_takeFiles SyncReport.updated
      (fun step => step.updated_report) running
  rw [created, updated]
  exact ⟨SourceFile.inPathOrder_of_sublist among,
    SourceFile.inPathOrder_of_sublist amongOthers⟩

/--
After a sync that goes through, a file that declares its id alone has its row and is
reported for what it did; ids that no file declares have what they had; and the
report is in the order of the locations.
-/
theorem sync_agrees_with_files
    (success : store.sync directory files = .ok (report, next)) :
    (∀ before entry later template,
        SourceFile.all directory files = before ++ entry :: later →
        SourceFile.read entry = .ok (some template) →
        (∀ other ∈ before ++ later,
          ¬ SourceFile.Declares other template.manifest.id) →
        (∃ row,
            next.find? template.manifest.id = some row ∧
              template.Agrees row ∧
              Schema.read row.schema =
                .ok (template.manifest.definitions.map Definition.merged) ∧
              ((∀ definition ∈ template.manifest.definitions,
                  definition.isText = true) →
                Schema.read row.schema = .ok template.manifest.definitions)) ∧
          (template.manifest.id ∈ report.created ↔
            store.find? template.manifest.id = none) ∧
          (template.manifest.id ∈ report.updated ↔
            ∃ row,
              store.find? template.manifest.id = some row ∧
                ¬ template.Agrees row)) ∧
      SourceFile.InPathOrder directory files report.created ∧
      SourceFile.InPathOrder directory files report.updated ∧
      ∀ id,
        (∀ entry ∈ SourceFile.all directory files,
          ¬ SourceFile.Declares entry id) →
        next.find? id = store.find? id ∧
          next.versionsOf id = store.versionsOf id := by
  obtain ⟨created, updated⟩ := inPathOrder_of_sync success
  refine ⟨?_, created, updated, ?_⟩
  · intro before entry later template listed reading alone
    have declaring := SourceFile.declaring_of_alone reading alone
    rw [← listed] at declaring
    have ended :
        Standing.of next report template.manifest.id =
          (Standing.of store ⟨[], []⟩ template.manifest.id).take template := by
      rw [standing_of_sync success, declaring]
      rfl
    refine ⟨?_, ?_, ?_⟩
    · obtain ⟨row, found, agrees⟩ :=
        Standing.agrees_take
          (Standing.of store ⟨[], []⟩ template.manifest.id) template
      rw [← ended] at found
      have described : template.IsDescribed := ⟨entry, reading⟩
      have readable := described.read_schema
      rw [← agrees.schema] at readable
      refine ⟨row, found, agrees, readable, fun areText => ?_⟩
      rw [readable, Schema.merged_of_areText areText]
    · rw [mem_created_iff success, declaring]
      simp
    · have changed :=
        Standing.updated_take_ne_iff
          (Standing.of store ⟨[], []⟩ template.manifest.id) template
      rw [← ended] at changed
      rw [← List.count_pos_iff, Nat.pos_iff_ne_zero]
      exact changed
  · intro id silent
    have ended := standing_of_sync success id
    rw [SourceFile.declaring_eq_nil_iff.mpr silent] at ended
    exact ⟨congrArg Standing.row ended, congrArg Standing.versions ended⟩

/-- A file beside the two that declare the same id. -/
def thirdFile : FileEntry :=
  .file (Text.utf8 "/*---\nid: c\ntitle: C\n---*/\nThree".toList)

/-- Beside two files of another template the third one is imported as it is. -/
theorem sync_agrees_with_files_ofThird :
    ∃ report next template row,
      SourceFile.read thirdFile = .ok (some template) ∧
        withOtherRow.sync []
            (SourceFile.rivals ++ [(["c.typ".toList], thirdFile)]) =
          .ok (report, next) ∧
        next.find? template.manifest.id = some row ∧
        template.Agrees row ∧
        Schema.read row.schema = .ok template.manifest.definitions ∧
        template.manifest.id ∈ report.created := by
  let template : SourceTemplate :=
    ⟨⟨"c".toList, "C".toList, none, 0, false, []⟩, "Three".toList⟩
  have described : SourceFile.described? thirdFile = some template := by
    decide +kernel
  have reading := SourceFile.described?_eq_some_iff.mp described
  have listed :
      SourceFile.all []
          (SourceFile.rivals ++ [(["c.typ".toList], thirdFile)]) =
        SourceFile.rivals.map Prod.snd ++ thirdFile :: [] := by
    unfold SourceFile.all
    dsimp only
    rw [List.mergeSort_of_pairwise (by decide +kernel)]
    decide +kernel
  have alone :
      SourceFile.declaring template.manifest.id
        (SourceFile.rivals.map Prod.snd ++ []) = [] := by
    decide +kernel
  have goesThrough :
      (withOtherRow.sync []
        (SourceFile.rivals ++
          [(["c.typ".toList], thirdFile)])).toOption.isSome = true := by
    unfold sync
    rw [listed]
    decide +kernel
  obtain ⟨⟨report, next⟩, success⟩ := Option.isSome_iff_exists.mp goesThrough
  have success := eq_ok_of_toOption success
  obtain ⟨⟨row, found, agrees, _, readable⟩, created, _⟩ :=
    (sync_agrees_with_files success).1 _ _ _ _ listed reading
      (SourceFile.declaring_eq_nil_iff.mp alone)
  have noDefinitions :
      ∀ definition ∈ template.manifest.definitions, definition.isText = true := by
    intro definition member
    cases member
  exact ⟨report, next, template, row, reading, success, found, agrees,
    readable noDefinitions, created.mpr (by decide)⟩

/--
A file with a choice of one option, a character beyond the first 65536, whose default is
spelled by the two halves of this character.
-/
def halvedDefaultFile : FileEntry :=
  .file (Text.utf8
    ("/*---\nid: a\ntitle: A\npublished: true\nvariables:\n- name: v\n" ++
      "  type: select\n  label: V\n  default_value: \"\\ud83d\\ude00\"\n" ++
      "  options: [\"😀\"]\n---*/\n\x7b\x7bv\x7d\x7d").toList)

/-- The choice in `halvedDefaultFile`, with some default. -/
def smileyChoice (defaultValue : RawText) : Definition :=
  ⟨"v".toList, .select, "V".toList, false, some (.text defaultValue),
    some ["😀".toList]⟩

/--
The default of the file is no option, but the default that is read from the row is, and a
form that leaves the choice out is filled with it.
-/
theorem default_merged_to_option :
    ∃ template report next row,
      SourceFile.read halvedDefaultFile = .ok (some template) ∧
        empty.sync [] [(["a.typ".toList], halvedDefaultFile)] = .ok (report, next) ∧
        next.find? template.manifest.id = some row ∧
        template.manifest.definitions =
          [smileyChoice [.half 0x3D, .half 0x600]] ∧
        Schema.read row.schema = .ok [smileyChoice "😀".toList] ∧
        Schema.read row.schema ≠ .ok template.manifest.definitions ∧
        Form.resolve true template.manifest.definitions [] =
          .error [.rejected "V".toList (.notOption ["😀".toList])] ∧
        Form.resolve true [smileyChoice "😀".toList] [] =
          .ok [("v".toList, .text "😀".toList)] := by
  let template : SourceTemplate :=
    ⟨⟨"a".toList, "A".toList, none, 0, true, [smileyChoice [.half 0x3D, .half 0x600]]⟩,
      "\x7b\x7bv\x7d\x7d".toList⟩
  have described : SourceFile.described? halvedDefaultFile = some template := by
    decide +kernel
  have reading := SourceFile.described?_eq_some_iff.mp described
  have listed :
      SourceFile.all [] [(["a.typ".toList], halvedDefaultFile)] = [halvedDefaultFile] :=
    SourceFile.all_single (by decide) _
  have goesThrough :
      (empty.sync [] [(["a.typ".toList], halvedDefaultFile)]).toOption.isSome = true := by
    unfold sync
    rw [listed]
    decide +kernel
  obtain ⟨⟨report, next⟩, success⟩ := Option.isSome_iff_exists.mp goesThrough
  have success := eq_ok_of_toOption success
  have found := find?_sync_single_of_absent listed reading rfl success
  have isDescribed : template.IsDescribed := ⟨_, reading⟩
  have readable := isDescribed.read_schema
  have merged :
      template.manifest.definitions.map Definition.merged =
        [smileyChoice "😀".toList] := by
    decide +kernel
  have differ :
      [smileyChoice "😀".toList] ≠ template.manifest.definitions := by
    decide +kernel
  rw [merged] at readable
  refine ⟨template, report, next, _, reading, success, found, rfl, readable, ?_, ?_, ?_⟩
  · intro same
    exact differ (Except.ok.inj (readable.symm.trans same))
  · decide +kernel
  · decide +kernel

end Store

end ContractTemplates
