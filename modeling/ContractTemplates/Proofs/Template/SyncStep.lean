import ContractTemplates.Proofs.Template.StoreRows
import ContractTemplates.Template.Sync

namespace ContractTemplates

/-!
# Steps of a sync

`SyncState.Takes` lists all that taking over one template can do to the rows and
to the report: create, keep, edit or revise. `SyncState.takes_of_take` derives it
from the code once, and every invariant of the store is a case analysis on it.

`Store.afterSyncs_keeps` carries such an invariant from one step to any number of
syncs, of which those that stop leave the store as it was.
-/

namespace SourceTemplate

/-- A template that is read from some entry of a directory. -/
def IsDescribed (template : SourceTemplate) : Prop :=
  ∃ entry, SourceFile.read entry = .ok (some template)

/-- The row of a template that was not stored before. -/
def firstRow (template : SourceTemplate) : TemplateRow where
  id := template.manifest.id
  title := template.manifest.title
  description := template.manifest.description
  price := template.manifest.price
  source := template.body
  schema := template.schema
  version := 1
  isPublished := template.manifest.published

/-- The row that has to be written when a template is taken over, if there is one. -/
def written? (template : SourceTemplate) (store : Store) : Option TemplateRow :=
  match store.find? template.manifest.id with
  | none => some template.firstRow
  | some row =>
      let next := SyncState.renewed template row
      if next = row then none else some next

section written

variable
  {template : SourceTemplate}
  {store : Store}
  {row : TemplateRow}

/-- What a file describes cannot be stored in a further version if not in the first one. -/
theorem unfit_renewed
    (unfit : template.firstRow.fits = false)
    (row : TemplateRow) :
    (SyncState.renewed template row).fits = false := by
  have first : Validation.fitsWord 1 = true := by
    decide
  simp only [TemplateRow.fits, TemplateRow.fault?, firstRow, SyncState.renewed, first]
    at unfit ⊢
  split_ifs at unfit ⊢ <;>
    simp_all

theorem written?_of_absent
    (absent : store.find? template.manifest.id = none) :
    template.written? store = some template.firstRow := by
  simp only [written?, absent]

theorem written?_of_same
    (found : store.find? template.manifest.id = some row)
    (same : SyncState.renewed template row = row) :
    template.written? store = none := by
  simp only [written?, found, same, if_true]

theorem written?_of_differs
    (found : store.find? template.manifest.id = some row)
    (differs : SyncState.renewed template row ≠ row) :
    template.written? store = some (SyncState.renewed template row) := by
  simp only [written?, found, differs, if_false]

/-- What has to be written depends on the row under the id alone. -/
theorem written?_congr
    {next : Store}
    (same :
      next.find? template.manifest.id = store.find? template.manifest.id) :
    template.written? next = template.written? store := by
  unfold written?
  rw [same]

/-- A row that was renewed is found under the id of its template. -/
theorem find?_update_renewed
    (found : store.find? template.manifest.id = some row) :
    (store.update (SyncState.renewed template row)).find?
        template.manifest.id =
      some (SyncState.renewed template row) := by
  obtain ⟨_, sameId⟩ := Store.mem_of_find?_eq_some found
  have held :
      store.find? (SyncState.renewed template row).id = some row := by
    rw [← found, ← sameId]
    rfl
  rw [← sameId]
  exact Store.find?_update_self held

end written

end SourceTemplate

namespace VersionRow

/-- The changelog of a first version. -/
def initialLog : Text :=
  "Initial version".toList

/-- The changelog of every later version. -/
def revisionLog : Text :=
  "Synced from disk".toList

end VersionRow

namespace SyncState

/-- What taking over one template does to the rows and to the report. -/
inductive Takes
    (template : SourceTemplate)
    (state next : SyncState) :
    Prop where
  /-- A template that is not stored gets a row and its first version. -/
  | created
      (absent : state.store.find? template.manifest.id = none)
      (store :
        next.store =
          (state.store.addTemplate template.firstRow).addVersion
            (.ofTemplate template.firstRow VersionRow.initialLog))
      (report :
        next.report =
          { state.report with
            created := state.report.created ++ [template.manifest.id] })
  /-- A row that says what the file says stays. -/
  | kept
      (row : TemplateRow)
      (found : state.store.find? template.manifest.id = some row)
      (same : renewed template row = row)
      (store : next.store = state.store)
      (report : next.report = state.report)
  /-- Other metadata change the row alone. -/
  | edited
      (row : TemplateRow)
      (found : state.store.find? template.manifest.id = some row)
      (differs : renewed template row ≠ row)
      (sameContent : contentDiffers template row = false)
      (store : next.store = state.store.update (renewed template row))
      (report :
        next.report =
          { state.report with updated := state.report.updated ++ [row.id] })
  /-- Another source or schema changes the row and adds a version. -/
  | revised
      (row : TemplateRow)
      (found : state.store.find? template.manifest.id = some row)
      (newContent : contentDiffers template row = true)
      (store :
        next.store =
          (state.store.update (renewed template row)).addVersion
            (.ofTemplate (renewed template row) VersionRow.revisionLog))
      (report :
        next.report =
          { state.report with updated := state.report.updated ++ [row.id] })

/-- The rows of some templates can be written exactly if each row fits. -/
theorem writeFault?_eq_none_iff
    {store : Store}
    {ids : List Text} :
    writeFault? store ids = none ↔
      ∀ id ∈ ids, ∀ row, store.find? id = some row → row.fits = true := by
  unfold writeFault?
  simp only [List.findSome?_eq_none_iff, Option.bind_eq_none_iff,
    TemplateRow.fits, Option.isNone_iff_eq_none]

theorem mem_placed_iff
    {id other : Text}
    {ids : List Text} :
    id ∈ placed other ids ↔ id = other ∨ id ∈ ids := by
  induction ids with
  | nil =>
      simp [placed]
  | cons first rest inductionHypothesis =>
      unfold placed
      split
      · rw [List.mem_cons]
      · rw [List.mem_cons, List.mem_cons, inductionHypothesis, or_left_comm]

/-- What is still to be written is what is kept in hand. -/
theorem mem_unwritten_iff
    {state : SyncState}
    {id : Text} :
    id ∈ state.unwritten ↔ id ∈ state.changed ++ state.pending := by
  have same : id ∈ state.changed.foldr placed [] ↔ id ∈ state.changed := by
    induction state.changed with
    | nil =>
        rfl
    | cons first rest inductionHypothesis =>
        rw [List.foldr_cons, mem_placed_iff, inductionHypothesis, List.mem_cons]
  rw [unwritten, List.mem_append, List.mem_append, same, List.mem_reverse]

/-- Writing does nothing if nothing is kept in hand. -/
theorem write_of_nothing
    {state : SyncState}
    (changed : state.changed = [])
    (pending : state.pending = []) :
    state.write = .ok state := by
  obtain ⟨store, report, _, _, lookedUp, latest⟩ := state
  cases changed
  cases pending
  simp [write, unwritten, writeFault?]

theorem write_eq_ok
    {state written : SyncState}
    (success : state.write = .ok written) :
    written.store = state.store ∧ written.report = state.report := by
  unfold write at success
  split at success
  · cases success
    exact ⟨rfl, rfl⟩
  · cases success

/--
Looking up finds what is stored and changes neither the rows nor the report; what
is kept in hand stays there unless it is written.
-/
theorem lookUp_eq_ok
    {state looked : SyncState}
    {id : Text}
    {found : Option TemplateRow}
    (success : state.lookUp id = .ok (found, looked)) :
    found = state.store.find? id ∧
      looked.store = state.store ∧
      looked.report = state.report ∧
      ((looked.changed = state.changed ∧ looked.pending = state.pending) ∨
        ∃ written, state.write = .ok written) := by
  unfold lookUp at success
  split at success
  · cases success
    exact ⟨rfl, rfl, rfl, .inl ⟨rfl, rfl⟩⟩
  · cases writing : state.write with
    | error fault =>
        simp only [writing] at success
        cases success
    | ok written =>
        obtain ⟨sameStore, sameReport⟩ := write_eq_ok writing
        simp only [writing] at success
        cases success
        exact ⟨by rw [sameStore], sameStore, sameReport, .inr ⟨written, rfl⟩⟩

/-- Taking a template over looks it up and then creates or changes it. -/
theorem take_eq_ok
    {template : SourceTemplate}
    {state next : SyncState}
    (success : state.take template = .ok next) :
    ∃ looked,
      state.lookUp template.manifest.id =
          .ok (state.store.find? template.manifest.id, looked) ∧
        ((state.store.find? template.manifest.id = none ∧
            next = looked.create template) ∨
          ∃ row,
            state.store.find? template.manifest.id = some row ∧
              next = looked.change template row) := by
  unfold take at success
  cases looking : state.lookUp template.manifest.id with
  | error fault =>
      simp only [looking] at success
      cases success
  | ok result =>
      obtain ⟨found, looked⟩ := result
      obtain ⟨isFound, _⟩ := lookUp_eq_ok looking
      simp only [looking] at success
      refine ⟨looked, by rw [isFound], ?_⟩
      rw [← isFound]
      cases found with
      | none =>
          cases success
          exact .inl ⟨rfl, rfl⟩
      | some row =>
          cases success
          exact .inr ⟨row, rfl, rfl⟩

theorem content_eq_of_not_contentDiffers
    {template : SourceTemplate}
    {row : TemplateRow}
    (sameContent : contentDiffers template row = false) :
    row.source = template.body ∧ row.schema = template.schema := by
  simpa [contentDiffers] using sameContent

/-- New content is among what makes a row say something else. -/
theorem renewed_ne_of_contentDiffers
    {template : SourceTemplate}
    {row : TemplateRow}
    (newContent : contentDiffers template row = true) :
    renewed template row ≠ row := by
  intro same
  have source : template.body = row.source := congrArg TemplateRow.source same
  have schema : template.schema = row.schema := congrArg TemplateRow.schema same
  simp [contentDiffers, source, schema] at newContent

theorem change_of_eq
    {template : SourceTemplate}
    {row : TemplateRow}
    (same : renewed template row = row)
    (state : SyncState) :
    state.change template row = state :=
  if_pos same

/-- A row that says something else is changed, reported and kept in hand. -/
theorem change_of_ne
    {template : SourceTemplate}
    {row : TemplateRow}
    (differs : renewed template row ≠ row)
    (state : SyncState) :
    state.change template row =
      { state with
        store :=
          if contentDiffers template row then
            (state.store.update (renewed template row)).addVersion
              (.ofTemplate (renewed template row) VersionRow.revisionLog)
          else
            state.store.update (renewed template row)
        report :=
          { state.report with updated := state.report.updated ++ [row.id] }
        changed := row.id :: state.changed } :=
  if_neg differs

/-- Changing a stored template keeps, edits or revises it. -/
theorem takes_change
    {template : SourceTemplate}
    {state looked : SyncState}
    {row : TemplateRow}
    (found : state.store.find? template.manifest.id = some row)
    (sameStore : looked.store = state.store)
    (sameReport : looked.report = state.report) :
    Takes template state (looked.change template row) := by
  by_cases same : renewed template row = row
  · rw [change_of_eq same]
    exact .kept row found same sameStore sameReport
  · rw [change_of_ne same, sameStore, sameReport]
    cases content : contentDiffers template row with
    | false =>
        exact .edited row found same content rfl rfl
    | true =>
        exact .revised row found content rfl rfl

/-- Taking a template over does nothing but what `Takes` lists. -/
theorem takes_of_take
    {template : SourceTemplate}
    {state next : SyncState}
    (success : state.take template = .ok next) :
    Takes template state next := by
  obtain ⟨looked, looking, created | changed⟩ := take_eq_ok success
  · obtain ⟨absent, rfl⟩ := created
    obtain ⟨_, sameStore, sameReport, _⟩ := lookUp_eq_ok looking
    refine .created absent ?_ ?_
    · rw [← sameStore]
      rfl
    · rw [← sameReport]
      rfl
  · obtain ⟨row, found, rfl⟩ := changed
    obtain ⟨_, sameStore, sameReport, _⟩ := lookUp_eq_ok looking
    exact takes_change found sameStore sameReport

/-- An entry is passed over, or its template is taken over. -/
theorem takeFile_eq_ok
    {state next : SyncState}
    {entry : FileEntry}
    (success : state.takeFile entry = .ok next) :
    (SourceFile.read entry = .ok none ∧ next = state) ∨
      ∃ template,
        SourceFile.read entry = .ok (some template) ∧
          state.take template = .ok next := by
  unfold takeFile at success
  cases reading : SourceFile.read entry with
  | error fault =>
      simp [reading] at success
  | ok described =>
      cases described with
      | none =>
          simp only [reading, Except.ok.injEq] at success
          exact .inl ⟨rfl, success.symm⟩
      | some template =>
          refine .inr ⟨template, rfl, ?_⟩
          cases taking : state.take template with
          | error fault =>
              simp only [reading, taking] at success
              cases success
          | ok taken =>
              simp only [reading, taking] at success
              cases success
              rfl

/-- Taking one template over changes no row under another id. -/
theorem Takes.find?_other
    {template : SourceTemplate}
    {state next : SyncState}
    (step : Takes template state next)
    {id : Text}
    (other : template.manifest.id ≠ id) :
    next.store.find? id = state.store.find? id := by
  cases step with
  | created absent store report =>
      rw [store]
      exact Store.find?_addTemplate_other other state.store
  | kept row found same store report =>
      rw [store]
  | edited row found differs sameContent store report =>
      obtain ⟨_, sameId⟩ := Store.mem_of_find?_eq_some found
      have apart : (renewed template row).id ≠ id := sameId ▸ other
      rw [store]
      exact Store.find?_update_other apart state.store
  | revised row found newContent store report =>
      obtain ⟨_, sameId⟩ := Store.mem_of_find?_eq_some found
      have apart : (renewed template row).id ≠ id := sameId ▸ other
      rw [store]
      exact Store.find?_update_other apart state.store

/-- The row that has to be written is the row that is left under the id. -/
theorem Takes.find?_written
    {template : SourceTemplate}
    {state next : SyncState}
    {row : TemplateRow}
    (step : Takes template state next)
    (written : template.written? state.store = some row) :
    next.store.find? template.manifest.id = some row := by
  cases step with
  | created absent store report =>
      rw [SourceTemplate.written?_of_absent absent] at written
      cases written
      have fresh : state.store.find? template.firstRow.id = none := absent
      rw [store]
      exact Store.find?_addTemplate_self fresh
  | kept held found same store report =>
      rw [SourceTemplate.written?_of_same found same] at written
      cases written
  | edited held found differs sameContent store report =>
      rw [SourceTemplate.written?_of_differs found differs] at written
      cases written
      rw [store]
      exact SourceTemplate.find?_update_renewed found
  | revised held found newContent store report =>
      have differs := renewed_ne_of_contentDiffers newContent
      rw [SourceTemplate.written?_of_differs found differs] at written
      cases written
      rw [store]
      exact SourceTemplate.find?_update_renewed found

/-- A run over several entries begins with a step over the first. -/
theorem takeFiles_cons_eq_ok
    {state next : SyncState}
    {entry : FileEntry}
    {rest : List FileEntry} :
    state.takeFiles (entry :: rest) = .ok next ↔
      ∃ middle,
        state.takeFile entry = .ok middle ∧
          middle.takeFiles rest = .ok next := by
  cases taking : state.takeFile entry with
  | error fault =>
      simp [takeFiles, taking, bind, Except.bind]
  | ok middle =>
      simp [takeFiles, taking, bind, Except.bind]

/-- What taking over one template keeps of the rows, a run over entries keeps. -/
theorem takeFiles_keeps
    {motive : Store → Prop}
    (step :
      ∀ {template state next},
        SourceTemplate.IsDescribed template →
        Takes template state next →
        motive state.store →
        motive next.store)
    {state next : SyncState}
    {entries : List FileEntry}
    (success : state.takeFiles entries = .ok next)
    (holds : motive state.store) :
    motive next.store := by
  induction entries generalizing state with
  | nil =>
      cases success
      exact holds
  | cons entry rest inductionHypothesis =>
      obtain ⟨middle, first, later⟩ := takeFiles_cons_eq_ok.mp success
      apply inductionHypothesis later
      rcases takeFile_eq_ok first with
        ⟨_, rfl⟩ | ⟨template, reading, taking⟩
      · exact holds
      · exact step ⟨entry, reading⟩ (takes_of_take taking) holds

end SyncState

namespace Store

/-- A sync that goes through ends with the rows after its last entry. -/
theorem syncEntries_eq_ok
    {store next : Store}
    {entries : List FileEntry}
    {report : SyncReport}
    (success : store.syncEntries entries = .ok (report, next)) :
    ∃ state written,
      (SyncState.start store).takeFiles entries = .ok state ∧
        state.write = .ok written ∧
        state.store = next ∧
        state.report = report := by
  unfold syncEntries at success
  cases running : (SyncState.start store).takeFiles entries with
  | error fault =>
      simp only [running] at success
      cases success
  | ok state =>
      simp only [running, bind, Except.bind, SyncState.finish] at success
      cases writing : state.write with
      | error fault =>
          rw [writing] at success
          cases success
      | ok written =>
          refine ⟨state, written, rfl, writing, ?_⟩
          obtain ⟨sameStore, sameReport⟩ := SyncState.write_eq_ok writing
          rw [writing] at success
          cases success
          exact ⟨sameStore.symm, sameReport.symm⟩

/-- A sync of one entry takes over what it describes and does nothing else. -/
theorem takes_of_syncEntries_single
    {store next : Store}
    {entry : FileEntry}
    {template : SourceTemplate}
    {report : SyncReport}
    (reading : SourceFile.read entry = .ok (some template))
    (success : store.syncEntries [entry] = .ok (report, next)) :
    ∃ state,
      SyncState.Takes template (.start store) state ∧
        state.store = next ∧
        state.report = report := by
  obtain ⟨state, _, running, _, sameStore, sameReport⟩ :=
    syncEntries_eq_ok success
  obtain ⟨middle, step, ends⟩ := SyncState.takeFiles_cons_eq_ok.mp running
  cases ends
  refine ⟨state, ?_, sameStore, sameReport⟩
  rcases SyncState.takeFile_eq_ok step with
    ⟨passedOver, _⟩ | ⟨taken, readingTaken, taking⟩
  · rw [reading] at passedOver
    cases passedOver
  · rw [reading] at readingTaken
    cases readingTaken
    exact SyncState.takes_of_take taking

/-- The store after a sync; one that stops leaves it as it was. -/
def afterSync (directory : Location) (files : Files) (store : Store) : Store :=
  match store.sync directory files with
  | .ok (_, next) => next
  | .error _ => store

/-- The store after several syncs, each of a directory with any contents. -/
def afterSyncs (syncs : List (Location × Files)) (store : Store) : Store :=
  syncs.foldl (fun reached sync => reached.afterSync sync.1 sync.2) store

/-- What taking over one template keeps of the rows, a sync keeps. -/
theorem afterSync_keeps
    {motive : Store → Prop}
    (step :
      ∀ {template state next},
        SourceTemplate.IsDescribed template →
        SyncState.Takes template state next →
        motive state.store →
        motive next.store)
    (directory : Location)
    (files : Files)
    {store : Store}
    (holds : motive store) :
    motive (store.afterSync directory files) := by
  unfold afterSync
  split
  · next report reached success =>
      obtain ⟨state, _, running, _, sameStore, _⟩ := syncEntries_eq_ok success
      rw [← sameStore]
      exact SyncState.takeFiles_keeps step running holds
  · exact holds

/-- What taking over one template keeps of the rows, any number of syncs keeps. -/
theorem afterSyncs_keeps
    {motive : Store → Prop}
    (step :
      ∀ {template state next},
        SourceTemplate.IsDescribed template →
        SyncState.Takes template state next →
        motive state.store →
        motive next.store)
    (syncs : List (Location × Files))
    {store : Store}
    (holds : motive store) :
    motive (store.afterSyncs syncs) := by
  induction syncs generalizing store with
  | nil =>
      exact holds
  | cons sync rest inductionHypothesis =>
      exact inductionHypothesis (afterSync_keeps step sync.1 sync.2 holds)

end Store

end ContractTemplates
