import ContractTemplates.Proofs.Template.SyncIdempotence

namespace ContractTemplates

/-!
# Which syncs go through

A sync can stop in two ways: at a file that cannot be read, and when rows are written.
Where no two files describe the same id, each of these is a matter of a single file and
of the row that was stored under its id before the sync. `Store.exists_syncEntries_iff`
says that a sync goes through exactly if every file is takeable by itself, so the order
of the files has no say in it.
-/

/-- Whether an entry is passed over, or leaves no row behind that cannot be written. -/
inductive SourceFile.IsTakeable (entry : FileEntry) (store : Store) : Prop where
  | passedOver
      (reading : read entry = .ok none)
  | described
      (template : SourceTemplate)
      (reading : read entry = .ok (some template))
      (fits : ∀ row, template.written? store = some row → row.fits = true)

/-- An entry stays takeable while the row of its template stays. -/
theorem SourceFile.IsTakeable.of_find?_eq
    {entry : FileEntry}
    {store next : Store}
    (takeable : IsTakeable entry store)
    (same :
      ∀ template,
        read entry = .ok (some template) →
        next.find? template.manifest.id = store.find? template.manifest.id) :
    IsTakeable entry next := by
  cases takeable with
  | passedOver reading =>
      exact .passedOver reading
  | described template reading fits =>
      rw [← SourceTemplate.written?_congr (same template reading)] at fits
      exact .described template reading fits

namespace SyncState

/-- Whether all rows that are kept in hand can be written. -/
def IsWritable (state : SyncState) : Prop :=
  ∀ id ∈ state.changed ++ state.pending,
    ∀ row, state.store.find? id = some row → row.fits = true

namespace IsWritable

variable
  {state : SyncState}

theorem start
    (store : Store) :
    (SyncState.start store).IsWritable := by
  intro id awaited
  cases awaited

theorem write
    (writable : state.IsWritable) :
    state.write = .ok { state with changed := [], pending := [] } := by
  have free : writeFault? state.store state.unwritten = none :=
    writeFault?_eq_none_iff.mpr fun id awaited =>
      writable id (mem_unwritten_iff.mp awaited)
  unfold SyncState.write
  rw [free]

/-- Looking up has a result, and what it leaves in hand was in hand before. -/
theorem lookUp
    (writable : state.IsWritable)
    (id : Text) :
    ∃ looked,
      state.lookUp id = .ok (state.store.find? id, looked) ∧
        looked.store = state.store ∧
        looked.IsWritable := by
  by_cases inHand : state.hasInHand id = true
  · refine ⟨{ state with lookedUp := (state.store.find? id).map TemplateRow.id },
      ?_, rfl, writable⟩
    unfold SyncState.lookUp
    rw [if_pos inHand]
    rfl
  · refine ⟨{ state with
        changed := []
        pending := []
        lookedUp := (state.store.find? id).map TemplateRow.id },
      ?_, rfl, ?_⟩
    · unfold SyncState.lookUp
      rw [if_neg inHand, writable.write]
      rfl
    · intro other awaited
      cases awaited

/-- A further row in hand can be written if the rows under other ids have stayed. -/
theorem cons
    {next : SyncState}
    {id : Text}
    {row : TemplateRow}
    (writable : state.IsWritable)
    (awaited :
      ∀ other ∈ next.changed ++ next.pending,
        other = id ∨ other ∈ state.changed ++ state.pending)
    (others :
      ∀ other, id ≠ other → next.store.find? other = state.store.find? other)
    (stored : next.store.find? id = some row)
    (fits : row.fits = true) :
    next.IsWritable := by
  intro other member held found
  by_cases same : id = other
  · rw [← same, stored] at found
    cases found
    exact fits
  · rw [others other same] at found
    rcases awaited other member with itself | before
    · exact absurd itself.symm same
    · exact writable other before held found

/-- A template whose row can be written is taken over. -/
theorem take
    {template : SourceTemplate}
    (writable : state.IsWritable)
    (fits :
      ∀ row, template.written? state.store = some row → row.fits = true) :
    ∃ next, state.take template = .ok next ∧ next.IsWritable := by
  obtain ⟨looked, looking, sameStore, stillWritable⟩ :=
    writable.lookUp template.manifest.id
  have extend
      {next : SyncState}
      {row : TemplateRow}
      (success : state.take template = .ok next)
      (written : template.written? state.store = some row)
      (awaited :
        ∀ other ∈ next.changed ++ next.pending,
          other = template.manifest.id ∨
            other ∈ looked.changed ++ looked.pending) :
      next.IsWritable := by
    have step := takes_of_take success
    apply stillWritable.cons awaited _ (step.find?_written written)
      (fits row written)
    intro other different
    rw [sameStore]
    exact step.find?_other different
  cases found : state.store.find? template.manifest.id with
  | none =>
      have success : state.take template = .ok (looked.create template) := by
        unfold SyncState.take
        rw [looking, found]
        rfl
      refine ⟨_, success,
        extend success (SourceTemplate.written?_of_absent found) ?_⟩
      intro other awaited
      simp only [create, List.mem_append, List.mem_cons] at awaited ⊢
      tauto
  | some row =>
      have success : state.take template = .ok (looked.change template row) := by
        unfold SyncState.take
        rw [looking, found]
        rfl
      refine ⟨_, success, ?_⟩
      by_cases same : renewed template row = row
      · rw [change_of_eq same]
        exact stillWritable
      · obtain ⟨_, sameId⟩ := Store.mem_of_find?_eq_some found
        apply extend success (SourceTemplate.written?_of_differs found same)
        intro other awaited
        rw [change_of_ne same, sameId] at awaited
        exact List.mem_cons.mp awaited

theorem takeFile
    {entry : FileEntry}
    (writable : state.IsWritable)
    (takeable : SourceFile.IsTakeable entry state.store) :
    ∃ next, state.takeFile entry = .ok next ∧ next.IsWritable := by
  unfold SyncState.takeFile
  cases takeable with
  | passedOver reading =>
      rw [reading]
      exact ⟨state, rfl, writable⟩
  | described template reading fits =>
      obtain ⟨next, taking, stillWritable⟩ := writable.take fits
      refine ⟨next, ?_, stillWritable⟩
      rw [reading]
      dsimp only
      rw [taking]
      rfl

/-- A run over takeable files of distinct ids goes through. -/
theorem takeFiles
    {entries : List FileEntry}
    (writable : state.IsWritable)
    (distinct : (SourceFile.describedIds entries).Nodup)
    (takeable : ∀ entry ∈ entries, SourceFile.IsTakeable entry state.store) :
    ∃ next, state.takeFiles entries = .ok next ∧ next.IsWritable := by
  induction entries generalizing state with
  | nil =>
      exact ⟨state, rfl, writable⟩
  | cons entry rest inductionHypothesis =>
      obtain ⟨middle, first, stillWritable⟩ :=
        writable.takeFile (takeable entry List.mem_cons_self)
      have takeableRest :
          ∀ other ∈ rest, SourceFile.IsTakeable other middle.store := by
        intro other member
        apply (takeable other (List.mem_cons_of_mem entry member)).of_find?_eq
        intro held readingOther
        rcases takeFile_eq_ok first with
          ⟨_, rfl⟩ | ⟨template, reading, taking⟩
        · rfl
        · have different :=
            SourceFile.id_ne_of_distinct_cons distinct reading other member held
              readingOther
          exact (takes_of_take taking).find?_other different.symm
      obtain ⟨next, later, ended⟩ :=
        inductionHypothesis stillWritable (SourceFile.distinct_of_cons distinct)
          takeableRest
      exact ⟨next, takeFiles_cons_eq_ok.mpr ⟨middle, first, later⟩, ended⟩

end IsWritable

end SyncState

namespace Store

variable
  {store : Store}
  {entries : List FileEntry}

/-- A sync of takeable files of distinct ids goes through. -/
theorem exists_syncEntries_of_takeable
    (distinct : (SourceFile.describedIds entries).Nodup)
    (takeable : ∀ entry ∈ entries, SourceFile.IsTakeable entry store) :
    ∃ result, store.syncEntries entries = .ok result := by
  obtain ⟨state, running, writable⟩ :=
    (SyncState.IsWritable.start store).takeFiles distinct takeable
  refine ⟨(state.report, state.store), ?_⟩
  unfold syncEntries
  rw [running]
  show state.finish = _
  unfold SyncState.finish
  rw [writable.write]
  rfl

/-- A file that is not takeable stops every sync in which no other file has its id. -/
theorem takeable_of_syncEntries
    {result : SyncReport × Store}
    (distinct : (SourceFile.describedIds entries).Nodup)
    (success : store.syncEntries entries = .ok result) :
    ∀ entry ∈ entries, SourceFile.IsTakeable entry store := by
  intro entry member
  obtain ⟨before, later, rfl⟩ := List.append_of_mem member
  cases reading : SourceFile.read entry with
  | error fault =>
      obtain ⟨stop, stopped⟩ :=
        syncEntries_eq_error_of_unreadable reading store before later
      rw [success] at stopped
      cases stopped
  | ok described =>
      cases described with
      | none =>
          exact .passedOver reading
      | some template =>
          refine .described template reading ?_
          intro row written
          by_contra unfit
          obtain ⟨stop, stopped⟩ :=
            syncEntries_eq_error_of_unfit reading written
              (Bool.eq_false_iff.mpr unfit)
              (SourceFile.id_ne_of_distinct distinct reading)
          rw [success] at stopped
          cases stopped

/-- A sync of files of distinct ids goes through exactly if each file is takeable. -/
theorem exists_syncEntries_iff
    (distinct : (SourceFile.describedIds entries).Nodup) :
    (∃ result, store.syncEntries entries = .ok result) ↔
      ∀ entry ∈ entries, SourceFile.IsTakeable entry store :=
  ⟨fun ⟨_, success⟩ => takeable_of_syncEntries distinct success,
    exists_syncEntries_of_takeable distinct⟩

end Store

end ContractTemplates
