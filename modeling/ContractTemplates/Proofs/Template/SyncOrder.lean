import ContractTemplates.Proofs.Template.Standing
import ContractTemplates.Proofs.Template.SyncSuccess

namespace ContractTemplates

/-!
# The order of files

The names of template files decide in which order a sync takes them over, and nothing
else. Where no two of them describe the same id, each template goes through the step of
its one file, so two syncs of the same contents leave the same rows up to their order:
`Store.syncEntries_perm`.

The names of folders are not as harmless. A folder whose name ends like that of a
template file is taken for one, and it stops the sync. `Store.sync_same_but_order` says
what comes of both.
-/

namespace SourceFile

variable
  {first second : List FileEntry}

/-- Where ids are distinct, entries in any order declare the same of an id. -/
theorem declaring_eq_of_perm
    (perm : first.Perm second)
    (distinct : (describedIds first).Nodup)
    (id : Text) :
    declaring id first = declaring id second := by
  have declared : (declaring id first).Perm (declaring id second) :=
    (perm.filterMap described?).filter _
  have single : (declaring id first).length ≤ 1 := by
    have once := List.nodup_iff_count_le_one.mp distinct id
    unfold describedIds at once
    rw [List.count_eq_countP, List.countP_map,
      List.countP_eq_length_filter] at once
    exact once
  match shape : declaring id first with
  | [] =>
      rw [shape] at declared
      exact declared.nil_eq
  | [template] =>
      rw [shape] at declared
      exact List.singleton_perm.mp declared
  | template :: other :: rest =>
      rw [shape] at single
      simp at single

end SourceFile

namespace Store

/-- The rows under an id. -/
def rowsOf (store : Store) (id : Text) : List TemplateRow :=
  store.templates.filter fun row => row.id = id

theorem head?_rowsOf
    (store : Store)
    (id : Text) :
    (store.rowsOf id).head? = store.find? id :=
  List.head?_filter

theorem filter_replaced_self
    {row : TemplateRow}
    {id : Text}
    (own : row.id = id)
    (rows : List TemplateRow) :
    (replaced row rows).filter (fun held => held.id = id) =
      (rows.filter fun held => held.id = id).map fun _ => row := by
  induction rows with
  | nil =>
      rfl
  | cons head rest inductionHypothesis =>
      show ((if head.id = row.id then row else head) ::
        replaced row rest).filter _ = _
      by_cases same : head.id = id
      · rw [if_pos (same.trans own.symm), List.filter_cons_of_pos (by simpa),
          List.filter_cons_of_pos (by simpa), List.map_cons,
          inductionHypothesis]
      · rw [if_neg (own ▸ same), List.filter_cons_of_neg (by simpa),
          List.filter_cons_of_neg (by simpa), inductionHypothesis]

theorem filter_replaced_other
    {row : TemplateRow}
    {id : Text}
    (other : row.id ≠ id)
    (rows : List TemplateRow) :
    (replaced row rows).filter (fun held => held.id = id) =
      rows.filter fun held => held.id = id := by
  induction rows with
  | nil =>
      rfl
  | cons head rest inductionHypothesis =>
      show ((if head.id = row.id then row else head) ::
        replaced row rest).filter _ = _
      by_cases same : head.id = row.id
      · have apart : head.id ≠ id :=
          same ▸ other
        rw [if_pos same, List.filter_cons_of_neg (by simpa),
          List.filter_cons_of_neg (by simpa), inductionHypothesis]
      · rw [if_neg same, List.filter_cons, List.filter_cons,
          inductionHypothesis]

/-- Lists that agree on the items of every key are the same up to their order. -/
theorem perm_of_filter_eq
    [DecidableEq α]
    [DecidableEq β]
    (key : α → β)
    {first second : List α}
    (same :
      ∀ asked,
        (first.filter fun item => key item = asked) =
          second.filter fun item => key item = asked) :
    first.Perm second := by
  rw [List.perm_iff_count]
  intro item
  have counted := congrArg (List.count item) (same (key item))
  rwa [List.count_filter (by simp), List.count_filter (by simp)] at counted

end Store

namespace SyncState

/-- What one file that declares a template makes of the rows under its id. -/
def takeRows (rows : List TemplateRow) (template : SourceTemplate) :
    List TemplateRow :=
  match rows.head? with
  | none => [template.firstRow]
  | some row =>
      let next := renewed template row
      if next = row then rows else rows.map fun _ => next

namespace Takes

variable
  {template : SourceTemplate}
  {state next : SyncState}

/-- Taking a template over changes the rows under its id as its file says. -/
theorem rowsOf_self
    (step : Takes template state next) :
    next.store.rowsOf template.manifest.id =
      takeRows (state.store.rowsOf template.manifest.id) template := by
  have held := state.store.head?_rowsOf template.manifest.id
  unfold takeRows
  cases step with
  | created absent store report =>
      rw [absent] at held
      have none : state.store.rowsOf template.manifest.id = [] :=
        List.head?_eq_none_iff.mp held
      have own : template.firstRow.id = template.manifest.id :=
        rfl
      rw [held, store]
      unfold Store.rowsOf at none ⊢
      simp [Store.addVersion, Store.addTemplate, none, own]
  | kept row found same store report =>
      rw [held, found, store]
      simp [same]
  | edited row found differs sameContent store report =>
      obtain ⟨_, sameId⟩ := Store.mem_of_find?_eq_some found
      have own : (renewed template row).id = template.manifest.id :=
        sameId
      rw [held, found, store]
      simp only [differs, if_false]
      exact Store.filter_replaced_self own _
  | revised row found newContent store report =>
      obtain ⟨_, sameId⟩ := Store.mem_of_find?_eq_some found
      have own : (renewed template row).id = template.manifest.id :=
        sameId
      have differs := renewed_ne_of_contentDiffers newContent
      rw [held, found, store]
      simp only [differs, if_false]
      exact Store.filter_replaced_self own _

/-- Taking a template over leaves the rows under other ids as they are. -/
theorem rowsOf_other
    (step : Takes template state next)
    {id : Text}
    (other : template.manifest.id ≠ id) :
    next.store.rowsOf id = state.store.rowsOf id := by
  cases step with
  | created absent store report =>
      have apart : template.firstRow.id ≠ id := other
      rw [store]
      simp [Store.rowsOf, Store.addVersion, Store.addTemplate, apart]
  | kept row found same store report =>
      rw [store]
  | edited row found differs sameContent store report =>
      obtain ⟨_, sameId⟩ := Store.mem_of_find?_eq_some found
      have apart : (renewed template row).id ≠ id := sameId ▸ other
      rw [store]
      exact Store.filter_replaced_other apart _
  | revised row found newContent store report =>
      obtain ⟨_, sameId⟩ := Store.mem_of_find?_eq_some found
      have apart : (renewed template row).id ≠ id := sameId ▸ other
      rw [store]
      exact Store.filter_replaced_other apart _

end Takes

/-- The rows under an id after a run are what the files that declare it make of them. -/
theorem rowsOf_of_takeFiles
    {state next : SyncState}
    {entries : List FileEntry}
    (success : state.takeFiles entries = .ok next)
    (id : Text) :
    next.store.rowsOf id =
      (SourceFile.declaring id entries).foldl takeRows
        (state.store.rowsOf id) := by
  apply view_of_takeFiles (fun store _ => store.rowsOf id) takeRows _ _ success
  · rintro template state next step rfl
    exact step.rowsOf_self
  · intro template state next step different
    exact step.rowsOf_other different

end SyncState

namespace Store

/--
Whether two syncs come to the same but for the order of rows and of reported ids: both
stop, or both go through.
-/
inductive SameButOrder :
    Except SyncFault (SyncReport × Store) →
      Except SyncFault (SyncReport × Store) → Prop where
  | stopped
      (fault otherFault : SyncFault) :
      SameButOrder (.error fault) (.error otherFault)
  | done
      {report otherReport : SyncReport}
      {next otherNext : Store}
      (templates : next.templates.Perm otherNext.templates)
      (versions : next.versions.Perm otherNext.versions)
      (created : report.created.Perm otherReport.created)
      (updated : report.updated.Perm otherReport.updated) :
      SameButOrder (.ok (report, next)) (.ok (otherReport, otherNext))

variable
  {store : Store}
  {first second : List FileEntry}

/-- Two syncs that go through leave the same if they take the same steps for each id. -/
theorem sameButOrder_of_declaring
    {result other : SyncReport × Store}
    (same : ∀ id, SourceFile.declaring id first = SourceFile.declaring id second)
    (success : store.syncEntries first = .ok result)
    (otherSuccess : store.syncEntries second = .ok other) :
    SameButOrder (store.syncEntries first) (store.syncEntries second) := by
  rw [success, otherSuccess]
  obtain ⟨report, next⟩ := result
  obtain ⟨otherReport, otherNext⟩ := other
  obtain ⟨state, _, running, _, rfl, rfl⟩ := syncEntries_eq_ok success
  obtain ⟨otherState, _, otherRunning, _, rfl, rfl⟩ :=
    syncEntries_eq_ok otherSuccess
  have rows (id : Text) : state.store.rowsOf id = otherState.store.rowsOf id := by
    rw [SyncState.rowsOf_of_takeFiles running,
      SyncState.rowsOf_of_takeFiles otherRunning, same]
  have standing (id : Text) :
      Standing.of state.store state.report id =
        Standing.of otherState.store otherState.report id := by
    rw [SyncState.standing_of_takeFiles running,
      SyncState.standing_of_takeFiles otherRunning, same]
  apply SameButOrder.done
  case templates =>
    exact perm_of_filter_eq TemplateRow.id rows
  case versions =>
    exact perm_of_filter_eq VersionRow.templateId
      fun id => congrArg Standing.versions (standing id)
  case created =>
    exact List.perm_iff_count.mpr
      fun id => congrArg Standing.created (standing id)
  case updated =>
    exact List.perm_iff_count.mpr
      fun id => congrArg Standing.updated (standing id)

/-- The order in which files of distinct ids are taken over does not matter. -/
theorem syncEntries_perm
    (perm : first.Perm second)
    (distinct : (SourceFile.describedIds first).Nodup) :
    SameButOrder (store.syncEntries first) (store.syncEntries second) := by
  have otherDistinct : (SourceFile.describedIds second).Nodup :=
    (SourceFile.describedIds_perm perm).nodup_iff.mp distinct
  have together :
      (∃ result, store.syncEntries first = .ok result) ↔
        ∃ result, store.syncEntries second = .ok result := by
    rw [exists_syncEntries_iff distinct, exists_syncEntries_iff otherDistinct]
    simp only [perm.mem_iff]
  cases success : store.syncEntries first with
  | ok result =>
      obtain ⟨other, otherSuccess⟩ := together.mp ⟨result, success⟩
      rw [← success]
      exact sameButOrder_of_declaring
        (SourceFile.declaring_eq_of_perm perm distinct) success otherSuccess
  | error fault =>
      cases otherSuccess : store.syncEntries second with
      | ok other =>
          obtain ⟨result, again⟩ := together.mpr ⟨other, otherSuccess⟩
          rw [success] at again
          cases again
      | error otherFault =>
          exact .stopped fault otherFault

end Store

namespace SourceFile

/-- The content of a file; a folder has none. -/
def content? : FileEntry → Option Bytes
  | .file content => some content
  | .directory => none

/-- The contents of the template files of a directory, in the order of locations. -/
def contents (directory : Location) (files : Files) : List Bytes :=
  (all directory files).filterMap content?

/-- Whether a folder of a directory has the name of a template file. -/
def HasNamedFolder (directory : Location) (files : Files) : Prop :=
  .directory ∈ all directory files

/-- Without such folders, the template files are known by their contents. -/
theorem map_file_contents
    {directory : Location}
    {files : Files}
    (filesOnly : ¬ HasNamedFolder directory files) :
    (contents directory files).map FileEntry.file = all directory files := by
  unfold contents
  unfold HasNamedFolder at filesOnly
  generalize all directory files = entries at filesOnly ⊢
  induction entries with
  | nil =>
      rfl
  | cons entry rest inductionHypothesis =>
      obtain ⟨isFile, others⟩ :=
        List.ne_and_not_mem_of_not_mem_cons filesOnly
      cases entry with
      | directory =>
          exact absurd rfl isFile
      | file content =>
          exact congrArg (FileEntry.file content :: ·)
            (inductionHypothesis others)

end SourceFile

namespace Store

/-- A folder with the name of a template file stops every sync. -/
theorem sync_stops_of_hasNamedFolder
    {directory : Location}
    {files : Files}
    (folder : SourceFile.HasNamedFolder directory files)
    (store : Store) :
    ∃ fault, store.sync directory files = .error fault := by
  obtain ⟨before, later, listed⟩ := List.append_of_mem folder
  have unreadable : SourceFile.read .directory = .error .isDirectory :=
    rfl
  unfold sync
  rw [listed]
  exact syncEntries_eq_error_of_unreadable unreadable store before later

/--
Two directories whose template files have the same contents, of which no two describe
the same id, are synced to the same but for the order, if no folder has the name of a
template file. A directory with such a folder is not synced at all.
-/
theorem sync_same_but_order
    (store : Store)
    {directory other : Location}
    {files otherFiles : Files}
    (sameContents :
      (SourceFile.contents directory files).Perm
        (SourceFile.contents other otherFiles))
    (distinct :
      (SourceFile.describedIds (SourceFile.all directory files)).Nodup) :
    (¬ SourceFile.HasNamedFolder directory files →
        ¬ SourceFile.HasNamedFolder other otherFiles →
        SameButOrder (store.sync directory files)
          (store.sync other otherFiles)) ∧
      (SourceFile.HasNamedFolder directory files →
        ∃ fault, store.sync directory files = .error fault) ∧
      (SourceFile.HasNamedFolder other otherFiles →
        ∃ fault, store.sync other otherFiles = .error fault) := by
  refine ⟨?_, fun folder => sync_stops_of_hasNamedFolder folder store,
    fun folder => sync_stops_of_hasNamedFolder folder store⟩
  intro filesOnly otherFilesOnly
  have perm :
      (SourceFile.all directory files).Perm
        (SourceFile.all other otherFiles) := by
    rw [← SourceFile.map_file_contents filesOnly,
      ← SourceFile.map_file_contents otherFilesOnly]
    exact sameContents.map FileEntry.file
  exact syncEntries_perm perm distinct

/-- A template file with an id. -/
def fileOf (id : String) : FileEntry :=
  .file (Text.utf8 ("/*---\nid: " ++ id ++ "\ntitle: A\n---*/\nBody").toList)

/-- Two template files side by side. -/
def flatTree : Files := [
  (["a.typ".toList], fileOf "x"),
  (["b.typ".toList], fileOf "y")]

/-- The same files in folders, under names of the opposite order. -/
def nestedTree : Files := [
  (["old".toList], .directory),
  (["old".toList, "c.typ".toList], fileOf "y"),
  (["z.typ".toList], fileOf "x")]

/-- Both trees are synced to the same but for the order. -/
theorem sync_same_but_order_ofNestedTree :
    (SourceFile.contents [] flatTree).Perm
        (SourceFile.contents [] nestedTree) ∧
      ¬ SourceFile.HasNamedFolder [] flatTree ∧
      ¬ SourceFile.HasNamedFolder [] nestedTree ∧
      SameButOrder (empty.sync [] flatTree) (empty.sync [] nestedTree) := by
  have flat : SourceFile.all [] flatTree = [fileOf "x", fileOf "y"] := by
    unfold SourceFile.all
    dsimp only
    rw [List.mergeSort_of_pairwise (by decide +kernel)]
    decide +kernel
  have nested : SourceFile.all [] nestedTree = [fileOf "y", fileOf "x"] := by
    unfold SourceFile.all
    dsimp only
    rw [List.mergeSort_of_pairwise (by decide +kernel)]
    decide +kernel
  have sameContents :
      (SourceFile.contents [] flatTree).Perm
        (SourceFile.contents [] nestedTree) := by
    unfold SourceFile.contents
    rw [flat, nested]
    exact List.Perm.swap ..
  have distinct :
      (SourceFile.describedIds (SourceFile.all [] flatTree)).Nodup := by
    rw [flat]
    decide +kernel
  have filesOnly : ¬ SourceFile.HasNamedFolder [] flatTree := by
    unfold SourceFile.HasNamedFolder
    rw [flat]
    exact nofun
  have otherFilesOnly : ¬ SourceFile.HasNamedFolder [] nestedTree := by
    unfold SourceFile.HasNamedFolder
    rw [nested]
    exact nofun
  obtain ⟨same, _⟩ := sync_same_but_order empty sameContents distinct
  exact ⟨sameContents, filesOnly, otherFilesOnly,
    same filesOnly otherFilesOnly⟩

/-- A template file in a folder whose name ends like that of a template file. -/
def folderedTree : Files := [
  (["sub.typ".toList], .directory),
  (["sub.typ".toList, "a.typ".toList], fileOf "a")]

/--
The file alone is synced and creates its template; in the folder it has the same content,
but the sync stops.
-/
theorem folderedTree_stops :
    SourceFile.contents [] [(["a.typ".toList], fileOf "a")] =
        SourceFile.contents [] folderedTree ∧
      (SourceFile.describedIds
        (SourceFile.all [] [(["a.typ".toList], fileOf "a")])).Nodup ∧
      (empty.sync [] [(["a.typ".toList], fileOf "a")]).toOption.map Prod.fst =
        some ⟨["a".toList], []⟩ ∧
      empty.sync [] folderedTree = .error (.source .isDirectory) := by
  have alone :
      SourceFile.all [] [(["a.typ".toList], fileOf "a")] = [fileOf "a"] :=
    SourceFile.all_single (by decide) _
  have foldered :
      SourceFile.all [] folderedTree = [.directory, fileOf "a"] := by
    unfold SourceFile.all
    dsimp only
    rw [List.mergeSort_of_pairwise (by decide +kernel)]
    decide +kernel
  unfold SourceFile.contents sync
  rw [alone, foldered]
  decide +kernel

end Store

end ContractTemplates
