import ContractTemplates.Proofs.Template.Listing
import ContractTemplates.Proofs.Template.StoreRows
import ContractTemplates.Proofs.Template.SyncStep

namespace ContractTemplates

/-!
# Files that cannot be taken over

A file that reading passes over (one without metadata, with malformed metadata or
with metadata that are no manifest) leaves every sync of every directory as it
would be without the file. `SourceFile.isIsolated_iff_passedOver` says that these
are the only files of which this is true: a directory with the name of a template
file, bytes that are no text and metadata with a value that does not exist stop
every sync, and so does a price of more than 64 bits, or half a character in the
title, wherever no other file describes the same template.
-/

namespace SyncState

theorem takeFiles_append
    (state : SyncState)
    (before later : List FileEntry) :
    state.takeFiles (before ++ later) =
      (state.takeFiles before).bind fun middle => middle.takeFiles later := by
  induction before generalizing state with
  | nil =>
      rfl
  | cons entry rest inductionHypothesis =>
      cases taking : state.takeFile entry with
      | error fault =>
          simp [takeFiles, taking, bind, Except.bind]
      | ok middle =>
          simpa [takeFiles, taking, bind, Except.bind] using
            inductionHypothesis middle

/-- An entry that is passed over is a step that does nothing. -/
theorem takeFiles_insert_passedOver
    {entry : FileEntry}
    (passedOver : SourceFile.read entry = .ok none)
    (state : SyncState)
    (before later : List FileEntry) :
    state.takeFiles (before ++ entry :: later) =
      state.takeFiles (before ++ later) := by
  have nothing : ∀ middle : SyncState,
      middle.takeFiles (entry :: later) = middle.takeFiles later := by
    intro middle
    simp [takeFiles, takeFile, passedOver, bind, Except.bind]
  rw [takeFiles_append, takeFiles_append]
  simp only [nothing]

/-- No run gets beyond an entry that cannot be read. -/
theorem takeFiles_ne_ok_of_unreadable
    {entry : FileEntry}
    {fault : SourceFault}
    (unreadable : SourceFile.read entry = .error fault)
    (state next : SyncState)
    (before later : List FileEntry) :
    state.takeFiles (before ++ entry :: later) ≠ .ok next := by
  intro success
  induction before generalizing state with
  | nil =>
      obtain ⟨middle, step, _⟩ := takeFiles_cons_eq_ok.mp success
      simp [takeFile, unreadable] at step
  | cons first rest inductionHypothesis =>
      obtain ⟨middle, _, run⟩ := takeFiles_cons_eq_ok.mp success
      exact inductionHypothesis middle run

/--
A row that cannot be written is kept in hand: every writing fails until another
file describes the same template.
-/
structure Blocks (id : Text) (state : SyncState) : Prop where
  awaited :
    id ∈ state.changed ++ state.pending
  unstorable :
    ∃ row, state.store.find? id = some row ∧ row.fits = false

theorem Blocks.write
    {id : Text}
    {state : SyncState}
    (blocked : Blocks id state) :
    ∃ fault, state.write = .error fault := by
  obtain ⟨row, found, unfit⟩ := blocked.unstorable
  unfold SyncState.write
  cases writing : writeFault? state.store state.unwritten with
  | none =>
      have fits :=
        writeFault?_eq_none_iff.mp writing id (mem_unwritten_iff.mpr blocked.awaited)
          row found
      rw [unfit] at fits
      cases fits
  | some fault =>
      exact ⟨fault, rfl⟩

/-- Taking over another template leaves a row that cannot be written in hand. -/
theorem Blocks.take
    {id : Text}
    {template : SourceTemplate}
    {state next : SyncState}
    (blocked : Blocks id state)
    (other : template.manifest.id ≠ id)
    (success : state.take template = .ok next) :
    Blocks id next := by
  obtain ⟨row, found, unfit⟩ := blocked.unstorable
  have stored := (takes_of_take success).find?_other other
  refine ⟨?_, row, stored.trans found, unfit⟩
  have awaited := blocked.awaited
  obtain ⟨looked, looking, step⟩ := take_eq_ok success
  obtain ⟨_, _, _, kept | ⟨written, writing⟩⟩ := lookUp_eq_ok looking
  · rw [← kept.1, ← kept.2] at awaited
    rcases step with ⟨_, rfl⟩ | ⟨held, _, rfl⟩
    · simp only [create, List.mem_append, List.mem_cons] at awaited ⊢
      exact awaited.imp_right .inr
    · by_cases same : renewed template held = held
      · rw [change_of_eq same]
        exact awaited
      · rw [change_of_ne same]
        simp only [List.mem_append, List.mem_cons] at awaited ⊢
        exact awaited.imp_left .inr
  · obtain ⟨fault, stopped⟩ := blocked.write
    rw [stopped] at writing
    cases writing

/-- A row that has to be written and cannot be is kept in hand. -/
theorem blocks_of_take
    {template : SourceTemplate}
    {state next : SyncState}
    {row : TemplateRow}
    (written : template.written? state.store = some row)
    (unfit : row.fits = false)
    (success : state.take template = .ok next) :
    Blocks template.manifest.id next := by
  have stored := (takes_of_take success).find?_written written
  refine ⟨?_, row, stored, unfit⟩
  obtain ⟨looked, _, ⟨_, rfl⟩ | ⟨held, found, rfl⟩⟩ := take_eq_ok success
  · simp [create]
  · obtain ⟨_, sameId⟩ := Store.mem_of_find?_eq_some found
    have differs : renewed template held ≠ held := by
      intro same
      rw [SourceTemplate.written?_of_same found same] at written
      cases written
    rw [change_of_ne differs, sameId]
    simp

/-- A run over files of other templates keeps the row under an id. -/
theorem find?_takeFiles_other
    {id : Text}
    {state next : SyncState}
    {entries : List FileEntry}
    (others :
      ∀ entry ∈ entries,
        ∀ described,
          SourceFile.read entry = .ok (some described) →
          described.manifest.id ≠ id)
    (success : state.takeFiles entries = .ok next) :
    next.store.find? id = state.store.find? id := by
  induction entries generalizing state with
  | nil =>
      cases success
      rfl
  | cons entry rest inductionHypothesis =>
      obtain ⟨middle, first, later⟩ := takeFiles_cons_eq_ok.mp success
      rw [inductionHypothesis
        (fun other member => others other (by simp [member])) later]
      rcases takeFile_eq_ok first with
        ⟨_, rfl⟩ | ⟨template, reading, taking⟩
      · rfl
      · exact (takes_of_take taking).find?_other
          (others entry (by simp) template reading)

/-- A run over files of other templates leaves a row that cannot be written in hand. -/
theorem Blocks.takeFiles
    {id : Text}
    {state next : SyncState}
    {entries : List FileEntry}
    (blocked : Blocks id state)
    (others :
      ∀ entry ∈ entries,
        ∀ described,
          SourceFile.read entry = .ok (some described) →
          described.manifest.id ≠ id)
    (success : state.takeFiles entries = .ok next) :
    Blocks id next := by
  induction entries generalizing state with
  | nil =>
      cases success
      exact blocked
  | cons entry rest inductionHypothesis =>
      obtain ⟨middle, first, later⟩ := takeFiles_cons_eq_ok.mp success
      apply inductionHypothesis ?_
        (fun other member => others other (by simp [member])) later
      rcases takeFile_eq_ok first with
        ⟨_, rfl⟩ | ⟨template, reading, taking⟩
      · exact blocked
      · exact blocked.take (others entry (by simp) template reading) taking

/-- A run over a file whose row cannot be written ends with this row in hand. -/
theorem blocks_of_takeFiles
    {entry : FileEntry}
    {template : SourceTemplate}
    {before later : List FileEntry}
    {state next : SyncState}
    {row : TemplateRow}
    (described : SourceFile.read entry = .ok (some template))
    (written : template.written? state.store = some row)
    (unfit : row.fits = false)
    (others :
      ∀ other ∈ before ++ later,
        ∀ held,
          SourceFile.read other = .ok (some held) →
          held.manifest.id ≠ template.manifest.id)
    (success : state.takeFiles (before ++ entry :: later) = .ok next) :
    Blocks template.manifest.id next := by
  rw [takeFiles_append] at success
  cases first : state.takeFiles before with
  | error fault =>
      rw [first] at success
      cases success
  | ok reached =>
      rw [first] at success
      obtain ⟨middle, step, run⟩ := takeFiles_cons_eq_ok.mp success
      have unchanged :
          reached.store.find? template.manifest.id =
            state.store.find? template.manifest.id :=
        find?_takeFiles_other
          (fun other member => others other (by simp [member])) first
      have blocked : Blocks template.manifest.id middle := by
        rcases takeFile_eq_ok step with
          ⟨passedOver, _⟩ | ⟨taken, reading, taking⟩
        · rw [described] at passedOver
          cases passedOver
        · rw [described] at reading
          cases reading
          rw [← SourceTemplate.written?_congr unchanged] at written
          exact blocks_of_take written unfit taking
      exact blocked.takeFiles
        (fun other member => others other (by simp [member])) run

end SyncState

namespace Store

/-- A sync stops at an entry that cannot be read. -/
theorem syncEntries_eq_error_of_unreadable
    {entry : FileEntry}
    {fault : SourceFault}
    (unreadable : SourceFile.read entry = .error fault)
    (store : Store)
    (before later : List FileEntry) :
    ∃ stop, store.syncEntries (before ++ entry :: later) = .error stop := by
  cases syncing : store.syncEntries (before ++ entry :: later) with
  | error stop =>
      exact ⟨stop, rfl⟩
  | ok result =>
      obtain ⟨report, next⟩ := result
      obtain ⟨state, _, running, _⟩ := syncEntries_eq_ok syncing
      exact absurd running
        (SyncState.takeFiles_ne_ok_of_unreadable unreadable _ state before later)

/-- A sync stops at a row that cannot be written and that no other file describes. -/
theorem syncEntries_eq_error_of_unfit
    {store : Store}
    {entry : FileEntry}
    {template : SourceTemplate}
    {before later : List FileEntry}
    {row : TemplateRow}
    (described : SourceFile.read entry = .ok (some template))
    (written : template.written? store = some row)
    (unfit : row.fits = false)
    (others :
      ∀ other ∈ before ++ later,
        ∀ held,
          SourceFile.read other = .ok (some held) →
          held.manifest.id ≠ template.manifest.id) :
    ∃ stop, store.syncEntries (before ++ entry :: later) = .error stop := by
  cases syncing : store.syncEntries (before ++ entry :: later) with
  | error stop =>
      exact ⟨stop, rfl⟩
  | ok result =>
      obtain ⟨report, next⟩ := result
      obtain ⟨state, saved, running, writing, _⟩ := syncEntries_eq_ok syncing
      have blocked :=
        SyncState.blocks_of_takeFiles described written unfit others running
      obtain ⟨fault, stopped⟩ := blocked.write
      rw [stopped] at writing
      cases writing

end Store

namespace SourceFile

/--
Whether one more template file changes no sync of any directory, whatever is
stored, wherever the file is put, and whatever else is there.
-/
def IsIsolated (entry : FileEntry) : Prop :=
  ∀ (store : Store) (directory name : Location) (files : Files),
    isNamed name = true →
    files.find? (directory ++ name) = none →
    store.sync directory (files.put (directory ++ name) entry) =
      store.sync directory files

/-- A file that is passed over changes no sync. -/
theorem isIsolated_of_passedOver
    {entry : FileEntry}
    (passedOver : read entry = .ok none) :
    IsIsolated entry := by
  intro store directory name files template absent
  obtain ⟨before, later, withEntry, without⟩ := all_put template absent entry
  unfold Store.sync Store.syncEntries
  rw [withEntry, without,
    SyncState.takeFiles_insert_passedOver passedOver]

/-- A file that cannot be read stops every sync. -/
theorem sync_stops_of_unreadable
    {entry : FileEntry}
    {fault : SourceFault}
    (unreadable : read entry = .error fault)
    (store : Store)
    {directory name : Location}
    {files : Files}
    (template : isNamed name = true)
    (absent : files.find? (directory ++ name) = none) :
    ∃ stop,
      store.sync directory (files.put (directory ++ name) entry) =
        .error stop := by
  obtain ⟨before, later, withEntry, _⟩ := all_put template absent entry
  unfold Store.sync
  rw [withEntry]
  exact Store.syncEntries_eq_error_of_unreadable unreadable store before later

/-- A sync of one file that describes a template creates it, or stops. -/
theorem created_of_sync_single
    {entry : FileEntry}
    {template : SourceTemplate}
    (described : read entry = .ok (some template))
    {report : SyncReport}
    {next : Store}
    (success : Store.empty.syncEntries [entry] = .ok (report, next)) :
    report.created = [template.manifest.id] := by
  obtain ⟨state, step, _, rfl⟩ :=
    Store.takes_of_syncEntries_single described success
  cases step with
  | created absent store report =>
      rw [report]
      rfl
  | kept row found same store report =>
      cases found
  | edited row found differs sameContent store report =>
      cases found
  | revised row found newContent store report =>
      cases found

/-- A file that changes no sync is one that is passed over. -/
theorem passedOver_of_isIsolated
    {entry : FileEntry}
    (isolated : IsIsolated entry) :
    read entry = .ok none := by
  -- The empty store and a directory with nothing else in it decide already.
  have named : isNamed [ending] = true := by
    decide
  have fresh : Files.find? [] ([] ++ [ending]) = none :=
    rfl
  have alone := isolated Store.empty [] [ending] [] named fresh
  have listed : all [] (Files.put ([] ++ [ending]) entry []) = [entry] :=
    all_single named entry
  have unchanged :
      Store.empty.syncEntries [entry] = .ok (⟨[], []⟩, Store.empty) := by
    rw [← listed]
    refine Eq.trans alone ?_
    have nothing : all [] [] = [] := by
      simp [all, Files.below]
    have written : (SyncState.start Store.empty).write = .ok (.start Store.empty) :=
      SyncState.write_of_nothing rfl rfl
    unfold Store.sync Store.syncEntries
    rw [nothing]
    show SyncState.finish (.start Store.empty) = _
    unfold SyncState.finish
    rw [written]
    rfl
  cases reading : read entry with
  | error fault =>
      obtain ⟨stop, stopped⟩ :=
        Store.syncEntries_eq_error_of_unreadable reading Store.empty [] []
      rw [List.nil_append, unchanged] at stopped
      cases stopped
  | ok described =>
      cases described with
      | none =>
          rfl
      | some template =>
          have created := created_of_sync_single reading unchanged
          cases created

/-- A first row that cannot be stored means a row that has to be written and cannot be. -/
theorem exists_unfit_of_firstRow
    {template : SourceTemplate}
    {store : Store}
    (unfit : template.firstRow.fits = false)
    (fitting : ∀ row ∈ store.templates, row.fits = true) :
    ∃ row, template.written? store = some row ∧ row.fits = false := by
  cases found : store.find? template.manifest.id with
  | none =>
      exact ⟨_, SourceTemplate.written?_of_absent found, unfit⟩
  | some row =>
      have fits := fitting row (Store.mem_of_find?_eq_some found).1
      have unfitNext := SourceTemplate.unfit_renewed unfit row
      have differs : SyncState.renewed template row ≠ row := by
        intro same
        rw [same, fits] at unfitNext
        cases unfitNext
      exact ⟨_, SourceTemplate.written?_of_differs found differs, unfitNext⟩

/--
A row that cannot be stored stops every sync in which no other file describes
the same template.
-/
theorem sync_stops_of_unstorable
    {entry : FileEntry}
    {template : SourceTemplate}
    (described : read entry = .ok (some template))
    (unfit : template.firstRow.fits = false)
    {store : Store}
    (fitting : ∀ row ∈ store.templates, row.fits = true)
    {directory name : Location}
    {files : Files}
    (named : isNamed name = true)
    (absent : files.find? (directory ++ name) = none)
    (others :
      ∀ other ∈ all directory files,
        ∀ held,
          read other = .ok (some held) →
          held.manifest.id ≠ template.manifest.id) :
    ∃ stop,
      store.sync directory (files.put (directory ++ name) entry) =
        .error stop := by
  obtain ⟨before, later, withEntry, without⟩ := all_put named absent entry
  obtain ⟨row, written, unfitRow⟩ := exists_unfit_of_firstRow unfit fitting
  rw [without] at others
  unfold Store.sync
  rw [withEntry]
  exact Store.syncEntries_eq_error_of_unfit described written unfitRow others

/--
The files that change no sync of any directory are exactly those that reading
passes over. A file that cannot be read stops every sync of every directory, and
so does one whose row cannot be stored, unless another file of the directory
describes the same template.
-/
theorem isIsolated_iff_passedOver
    (entry : FileEntry) :
    (IsIsolated entry ↔ read entry = .ok none) ∧
      (∀ fault,
        read entry = .error fault →
        ∀ (store : Store) (directory name : Location) (files : Files),
          isNamed name = true →
          files.find? (directory ++ name) = none →
          ∃ stop,
            store.sync directory (files.put (directory ++ name) entry) =
              .error stop) ∧
      (∀ template,
        read entry = .ok (some template) →
        template.firstRow.fits = false →
        ∀ (store : Store) (directory name : Location) (files : Files),
          (∀ row ∈ store.templates, row.fits = true) →
          isNamed name = true →
          files.find? (directory ++ name) = none →
          (∀ other ∈ all directory files,
            ∀ held,
              read other = .ok (some held) →
              held.manifest.id ≠ template.manifest.id) →
          ∃ stop,
            store.sync directory (files.put (directory ++ name) entry) =
              .error stop) := by
  refine ⟨⟨passedOver_of_isIsolated, isIsolated_of_passedOver⟩, ?_, ?_⟩
  · intro fault unreadable store directory name files named absent
    exact sync_stops_of_unreadable unreadable store named absent
  · intro template described unfit store directory name files fitting named
      absent others
    exact sync_stops_of_unstorable described unfit fitting named absent others

/-- A directory with one template in it. -/
def oneTemplate : Files := [
  (["a.typ".toList],
    .file (Text.utf8 "/*---\nid: a\ntitle: A\n---*/\nBody".toList))]

/--
One more file that is no text stops a sync that would create a template without
the file.
-/
theorem undecodable_not_isolated :
    (Store.empty.sync [] oneTemplate).toOption.map Prod.fst =
        some ⟨["a".toList], []⟩ ∧
      ∃ stop,
        Store.empty.sync []
            (oneTemplate.put ([] ++ ["b.typ".toList]) (.file [0xFF])) =
          .error stop := by
  constructor
  · unfold Store.sync oneTemplate
    rw [all_single (by decide)]
    decide +kernel
  · have undecodable : read (.file [0xFF]) = .error .notUtf8 :=
      rfl
    exact sync_stops_of_unreadable undecodable Store.empty (by decide)
      (by decide)

end SourceFile

end ContractTemplates
