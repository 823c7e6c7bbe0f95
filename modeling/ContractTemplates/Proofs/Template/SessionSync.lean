import ContractTemplates.Proofs.Template.Session
import ContractTemplates.Proofs.Template.SyncIdempotence

namespace ContractTemplates

/-!
# The outcome of a session

`SyncState` follows a sync by the rows alone, as they are for the sync itself. A
session keeps besides what has been written so far and what has been committed.
With a database that refuses nothing but rows that cannot be stored, both come to
the same: step by step the sync of a session is that of `SyncState`, and
`Session.enclose_sync_ofRows` says that the report, the fault and the store that is
left are those of `Store.syncEntries`.
-/

/-- What a sync gets from reading an entry of a directory. -/
def SourceFile.reading (entry : FileEntry) : Reading SyncFault :=
  (SourceFile.read entry).mapError .source

namespace Session

/-- What a program comes to for the sync, whatever becomes of the database. -/
def outcome {α : Type} :
    EStateM.Result SyncFault Session α → Except SyncFault (α × SyncState)
  | .ok value ended => .ok (value, ended.work)
  | .error fault _ => .error fault

/-- Programs of a session go one after the other as the steps of the sync do. -/
theorem outcome_bind
    {α β : Type}
    {program : SessionProgram SyncFault α}
    {rest : α → SessionProgram SyncFault β}
    {session : Session}
    {step : Except SyncFault (α × SyncState)}
    (next : α × SyncState → Except SyncFault (β × SyncState))
    (first : outcome (program session) = step)
    (later :
      ∀ value middle,
        outcome (rest value middle) = next (value, middle.work)) :
    outcome ((program >>= rest) session) = step.bind next := by
  subst first
  cases began : program session with
  | ok value middle =>
      rw [bind_of_ok began]
      exact later value middle
  | error fault ended =>
      rw [bind_of_error began]
      rfl

theorem refusesRows_ofRows
    (transaction : Store)
    (state : SyncState) :
    Engine.ofRows.refusesRows transaction state.rowsInHand =
      (SyncState.writeFault? state.store state.unwritten).map .store := by
  unfold SyncState.rowsInHand SyncState.writeFault?
  show ((List.filterMap _ state.unwritten).findSome? _).map _ = _
  induction state.unwritten with
  | nil =>
      rfl
  | cons id rest inductionHypothesis =>
      rw [List.filterMap_cons, List.findSome?_cons]
      cases state.store.find? id with
      | none =>
          exact inductionHypothesis
      | some row =>
          rw [List.findSome?_cons, Option.bind_some]
          cases row.fault? with
          | none =>
              exact inductionHypothesis
          | some fault =>
              rfl

variable (session : Session)

/-- Writing brings the transaction to the rows as the sync has them, or is refused. -/
theorem write_ofRows :
    write .ofRows session =
      match SyncState.writeFault? session.work.store session.work.unwritten with
      | none => .ok () session.written
      | some fault => .error (.store fault) session := by
  change
    (unlessRefused (Engine.ofRows.refusesRows session.transaction
      session.work.rowsInHand) >>= fun _ => modify written) session = _
  rw [refusesRows_ofRows]
  cases SyncState.writeFault? session.work.store session.work.unwritten with
  | none =>
      rfl
  | some fault =>
      rfl

/-- Looking for a template finds its row as the sync has it, unless writing is refused. -/
theorem find_ofRows
    (id : Text) :
    find .ofRows id session =
      if session.work.hasInHand id then
        .ok (session.work.store.find? id) session
      else
        match SyncState.writeFault? session.work.store session.work.unwritten with
        | none => .ok (session.work.store.find? id) session.written
        | some fault => .error (.store fault) session := by
  have writing := write_ofRows session
  change (if session.work.hasInHand id then _ else _ : SessionProgram _ _) _ = _
  split
  · rfl
  · split at writing
    next fits =>
      exact bind_of_ok writing
    next unfit =>
      exact bind_of_error writing

theorem outcome_lookUp_ofRows
    (id : Text) :
    outcome (lookUp .ofRows id session) =
      (session.work.lookUp id).mapError SyncFault.store := by
  have finding := find_ofRows session id
  unfold lookUp SyncState.lookUp SyncState.write
  by_cases inHand : session.work.hasInHand id = true
  · rw [if_pos inHand] at finding ⊢
    rw [bind_of_ok finding]
    rfl
  · rw [if_neg inHand] at finding ⊢
    cases verdict : SyncState.writeFault? session.work.store session.work.unwritten with
    | none =>
        rw [verdict] at finding
        rw [bind_of_ok finding]
        rfl
    | some fault =>
        rw [verdict] at finding
        rw [bind_of_error finding]
        rfl

theorem outcome_take_ofRows
    (template : SourceTemplate) :
    outcome (take .ofRows template session) =
      ((session.work.take template).mapError SyncFault.store).map
        (Prod.mk ()) := by
  unfold take
  rw [outcome_bind
    (fun result =>
      .ok ((), result.1.elim (result.2.create template)
        (result.2.change template)))
    (outcome_lookUp_ofRows session template.manifest.id)]
  · unfold SyncState.take
    cases session.work.lookUp template.manifest.id with
    | error fault =>
        rfl
    | ok result =>
        obtain ⟨found, looked⟩ := result
        cases found with
        | none =>
            rfl
        | some row =>
            rfl
  · intro found looked
    cases found with
    | none =>
        rfl
    | some row =>
        rfl

/-- A session takes the files of a directory over as the sync does. -/
theorem outcome_takeEach_ofRows
    (entries : List FileEntry) :
    outcome (takeEach .ofRows (entries.map SourceFile.reading) session) =
      (session.work.takeFiles entries).map (Prod.mk ()) := by
  induction entries generalizing session with
  | nil =>
      rfl
  | cons entry rest inductionHypothesis =>
      rw [List.map_cons, SourceFile.reading]
      unfold SyncState.takeFiles SyncState.takeFile
      cases SourceFile.read entry with
      | error fault =>
          rfl
      | ok described =>
          cases described with
          | none =>
              exact inductionHypothesis session
          | some template =>
              refine
                (outcome_bind
                  (fun result => (result.2.takeFiles rest).map (Prod.mk ()))
                  (outcome_take_ofRows session template)
                  fun _ taken => inductionHypothesis taken).trans ?_
              dsimp only
              cases session.work.take template with
              | error fault =>
                  rfl
              | ok taken =>
                  rfl

variable
  {session}
  {entries : List FileEntry}
  {ended : Session}

theorem takeFiles_eq_ok
    (run :
      takeEach .ofRows (entries.map SourceFile.reading) session =
        .ok () ended) :
    session.work.takeFiles entries = .ok ended.work := by
  have same := outcome_takeEach_ofRows session entries
  rw [run] at same
  cases walk : session.work.takeFiles entries with
  | error fault =>
      rw [walk] at same
      cases same
  | ok state =>
      rw [walk] at same
      exact congrArg Except.ok (congrArg Prod.snd (Except.ok.inj same)).symm

theorem takeFiles_eq_error
    {fault : SyncFault}
    (run :
      takeEach .ofRows (entries.map SourceFile.reading) session =
        .error fault ended) :
    session.work.takeFiles entries = .error fault := by
  have same := outcome_takeEach_ofRows session entries
  rw [run] at same
  cases walk : session.work.takeFiles entries with
  | error stop =>
      rw [walk] at same
      exact congrArg Except.error (Except.error.inj same).symm
  | ok state =>
      rw [walk] at same
      cases same

end Session

namespace SyncState

/-- A sync that has nothing to report so far has changed nothing. -/
theorem IsIdle.of_take
    {store : Store}
    {template : SourceTemplate}
    {state next : SyncState}
    (idle : state.report = ⟨[], []⟩ → IsIdle store state)
    (success : state.take template = .ok next)
    (nothing : next.report = ⟨[], []⟩) :
    IsIdle store next := by
  obtain ⟨looked, looking, ⟨_, rfl⟩ | ⟨row, found, rfl⟩⟩ := take_eq_ok success
  -- A template that is created or changed is reported, so it was left as it was.
  · have reported := congrArg SyncReport.created nothing
    simp [create] at reported
  · by_cases same : renewed template row = row
    · rw [change_of_eq same] at nothing ⊢
      obtain ⟨_, _, sameReport, _⟩ := lookUp_eq_ok looking
      obtain ⟨again, lookingAgain, still⟩ :=
        (idle (sameReport ▸ nothing)).lookUp template.manifest.id
      rw [looking] at lookingAgain
      obtain ⟨_, rfl⟩ := Prod.mk.inj (Except.ok.inj lookingAgain)
      exact still
    · rw [change_of_ne same] at nothing
      have reported := congrArg SyncReport.updated nothing
      simp at reported

theorem IsIdle.of_takeFiles
    {store : Store}
    {entries : List FileEntry}
    {state next : SyncState}
    (idle : state.report = ⟨[], []⟩ → IsIdle store state)
    (success : state.takeFiles entries = .ok next)
    (nothing : next.report = ⟨[], []⟩) :
    IsIdle store next := by
  induction entries generalizing state with
  | nil =>
      cases success
      exact idle nothing
  | cons entry rest inductionHypothesis =>
      obtain ⟨middle, first, later⟩ := takeFiles_cons_eq_ok.mp success
      refine inductionHypothesis ?_ later
      rcases takeFile_eq_ok first with ⟨_, rfl⟩ | ⟨template, _, taking⟩
      · exact idle
      · exact IsIdle.of_take idle taking

end SyncState

namespace Session

/-- A commit makes the rows as the sync has them what the database holds. -/
theorem commit_ofRows
    (session : Session) :
    commit .ofRows session =
      match SyncState.writeFault? session.work.store session.work.unwritten with
      | none => .ok () session.written.afterCommit
      | some fault => .error (.store fault) session := by
  have writing := write_ofRows session
  unfold commit
  split at writing
  next fits =>
    rw [bind_of_ok writing]
    rfl
  next unfit =>
    rw [bind_of_error writing]

/-- A session ends as the sync does, whose rows it commits if there is a change. -/
theorem closed_finish_ofRows
    {session : Session}
    (idle :
      session.work.report = ⟨[], []⟩ →
        SyncState.IsIdle session.committed session.work) :
    closed (finish .ofRows session) =
      match session.work.finish with
      | .ok (report, next) => .ok report next
      | .error fault => .error fault session.committed := by
  change
    closed
        ((if session.work.report ≠ ⟨[], []⟩ then
            commit .ofRows >>= fun _ => pure session.work.report
          else
            pure session.work.report : SessionProgram SyncFault SyncReport)
          session) =
      _
  split
  next reported =>
    have committing := commit_ofRows session
    unfold SyncState.finish SyncState.write
    cases verdict : SyncState.writeFault? session.work.store session.work.unwritten with
    | none =>
        rw [verdict] at committing
        rw [bind_of_ok committing]
        rfl
    | some fault =>
        rw [verdict] at committing
        rw [bind_of_error committing]
        rfl
  next nothing =>
    have report := Decidable.not_not.mp nothing
    rw [(idle report).finish, report]
    rfl

/--
With a database that refuses only rows that cannot be stored, a sync in a session has the
report, the fault and the store of a sync.
-/
theorem enclose_sync_ofRows
    (entries : List FileEntry)
    (store : Store) :
    enclose (sync .ofRows (entries.map SourceFile.reading)) store =
      match store.syncEntries entries with
      | .ok (report, next) => .ok report next
      | .error fault => .error fault store := by
  have keeps := keeps_takeEach Engine.ofRows (entries.map SourceFile.reading)
  unfold enclose sync Store.syncEntries
  cases running :
      takeEach .ofRows (entries.map SourceFile.reading) (start store) with
  | error fault ended =>
      have unchanged : ended.committed = store := keeps.raised running
      have stopped :
          (SyncState.start store).takeFiles entries = .error fault :=
        takeFiles_eq_error running
      rw [bind_of_error running, stopped, ← unchanged]
      rfl
  | ok _ ended =>
      -- Up to here nothing was committed, so without a report there is nothing to.
      have unchanged : ended.committed = store := keeps.returned running
      have reached :
          (SyncState.start store).takeFiles entries = .ok ended.work :=
        takeFiles_eq_ok running
      have idle :
          ended.work.report = ⟨[], []⟩ →
            SyncState.IsIdle ended.committed ended.work := by
        rw [unchanged]
        exact SyncState.IsIdle.of_takeFiles
          (fun _ => SyncState.IsIdle.start store) reached
      rw [bind_of_ok running, reached, ← unchanged]
      exact closed_finish_ofRows idle

end Session

end ContractTemplates
