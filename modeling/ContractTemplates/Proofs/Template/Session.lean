import ContractTemplates.Template.Sync

namespace ContractTemplates

/-!
# Syncs in a session

A sync works on the database in a session. What it writes goes into a transaction
that nobody else sees, at moments that depend on the files; a commit at the end
makes the transaction what the database holds, and closing the session drops
whatever was not committed.

Every step can be refused: the reading of a file, writing, asking for a row and the
commit. A refusal ends the program where it stands, with everything written so far
still in the transaction. `Session.keepsIfRaised_sync` says that the database holds
what it held before, because nothing but a commit that goes through changes it and
nothing that can be refused comes after the commit.
-/

/-- What a database refuses to do, with the fault that it raises instead. -/
structure Engine (ε : Type) where
  /-- Writing template rows, with their versions, into a transaction. -/
  refusesRows : Store → List TemplateRow → Option ε
  /-- Asking a transaction for the row under an id. -/
  refusesQuestion : Store → Text → Option ε
  /-- Committing a transaction. -/
  refusesCommit : Store → Option ε

/-- A database that refuses the rows that cannot be stored and nothing else. -/
def Engine.ofRows : Engine SyncFault where
  refusesRows _ rows := (rows.findSome? TemplateRow.fault?).map .store
  refusesQuestion _ _ := none
  refusesCommit _ := none

/-- A session of a sync with the database. -/
structure Session where
  /-- What the database holds, as everyone else sees it. -/
  committed : Store
  /-- What the database holds within the transaction of the session. -/
  transaction : Store
  /-- The sync, with the rows as it has them in hand. -/
  work : SyncState
  deriving DecidableEq, Repr

/-- What a sync does in a session; faults may be of any kind. -/
abbrev SessionProgram (ε α : Type) :=
  EStateM ε Session α

/-- What becomes of reading a template file. -/
abbrev Reading (ε : Type) :=
  Except ε (Option SourceTemplate)

/-- The template rows that a sync keeps in hand, in the order of writing. -/
def SyncState.rowsInHand (state : SyncState) : List TemplateRow :=
  state.unwritten.filterMap state.store.find?

namespace Session

variable {ε : Type}

/-- The session before a sync. -/
def start (store : Store) : Session where
  committed := store
  transaction := store
  work := .start store

/-- Raises the fault of a step that is refused. -/
def unlessRefused : Option ε → SessionProgram ε Unit
  | none => pure ()
  | some fault => throw fault

/-- Goes on with the work. -/
def modifyWork (step : SyncState → SyncState) : SessionProgram ε Unit :=
  modify fun session => { session with work := step session.work }

/-- The session after all rows in hand have gone into the transaction. -/
def written (session : Session) : Session where
  committed := session.committed
  transaction := session.work.store
  work := { session.work with changed := [], pending := [] }

/-- Writes the rows in hand into the transaction. -/
def write (engine : Engine ε) : SessionProgram ε Unit := do
  let session ← get
  unlessRefused
    (engine.refusesRows session.transaction session.work.rowsInHand)
  modify written

/-- Asks the transaction for the row under an id. -/
def ask (engine : Engine ε) (id : Text) :
    SessionProgram ε (Option TemplateRow) := do
  let session ← get
  unlessRefused (engine.refusesQuestion session.transaction id)
  pure (session.transaction.find? id)

/-- The row under an id; whatever else is in hand is written before it is asked for. -/
def find (engine : Engine ε) (id : Text) :
    SessionProgram ε (Option TemplateRow) := do
  let session ← get
  if session.work.hasInHand id then
    pure (session.work.store.find? id)
  else
    write engine
    ask engine id

/-- Looks a template up. -/
def lookUp (engine : Engine ε) (id : Text) :
    SessionProgram ε (Option TemplateRow) := do
  let found ← find engine id
  modifyWork fun work => { work with lookedUp := found.map TemplateRow.id }
  pure found

/-- Takes a template over. -/
def take (engine : Engine ε) (template : SourceTemplate) :
    SessionProgram ε Unit := do
  let found ← lookUp engine template.manifest.id
  match found with
  | some row => modifyWork (.change template row)
  | none => modifyWork (.create template)

/-- Takes over what the files of a directory turn out to be, in order. -/
def takeEach (engine : Engine ε) : List (Reading ε) → SessionProgram ε Unit
  | [] => pure ()
  | .error fault :: _ => throw fault
  | .ok none :: rest => takeEach engine rest
  | .ok (some template) :: rest => do
      take engine template
      takeEach engine rest

/-- The session after a commit. -/
def afterCommit (session : Session) : Session :=
  { session with committed := session.transaction }

/-- Writes what is in hand, and makes the transaction what the database holds. -/
def commit (engine : Engine ε) : SessionProgram ε Unit := do
  write engine
  let session ← get
  unlessRefused (engine.refusesCommit session.transaction)
  modify afterCommit

/-- Ends a sync; without a change there is nothing to commit. -/
def finish (engine : Engine ε) : SessionProgram ε SyncReport := do
  let session ← get
  if session.work.report ≠ ⟨[], []⟩ then
    commit engine
  pure session.work.report

/-- Takes a directory over. -/
def sync (engine : Engine ε) (readings : List (Reading ε)) :
    SessionProgram ε SyncReport := do
  takeEach engine readings
  finish engine

/-- What is left of a session that is closed: what was not committed is dropped. -/
def closed {α : Type} :
    EStateM.Result ε Session α → EStateM.Result ε Store α
  | .ok value ended => .ok value ended.committed
  | .error fault ended => .error fault ended.committed

/-- Runs a program in a session of its own, which is closed however the program ends. -/
def enclose {α : Type} (program : SessionProgram ε α) : EStateM ε Store α :=
  fun store => closed (program (start store))

/-- The sync with which a service begins its work; a fault of it is passed over. -/
def startUp (engine : Engine ε) (readings : List (Reading ε)) :
    EStateM ε Store Unit :=
  try
    discard (enclose (sync engine readings))
  catch _ =>
    pure ()

/-! ## What the database holds -/

section Programs

variable
  {α β : Type}
  {program : SessionProgram ε α}
  {rest : α → SessionProgram ε β}
  {session ended : Session}

theorem bind_of_ok
    {value : α}
    {middle : Session}
    (began : program session = .ok value middle) :
    (program >>= rest) session = rest value middle := by
  simp only [bind, EStateM.bind, began]

theorem bind_of_error
    {fault : ε}
    (stopped : program session = .error fault ended) :
    (program >>= rest) session = .error fault ended := by
  simp only [bind, EStateM.bind, stopped]

theorem bind_eq_ok
    {result : β}
    (run : (program >>= rest) session = .ok result ended) :
    ∃ value middle,
      program session = .ok value middle ∧
        rest value middle = .ok result ended := by
  cases began : program session with
  | ok value middle =>
      rw [bind_of_ok began] at run
      exact ⟨value, middle, rfl, run⟩
  | error fault middle =>
      rw [bind_of_error began] at run
      cases run

/-- A program that raises a fault does so in its first part or after it. -/
theorem bind_eq_error
    {fault : ε}
    (run : (program >>= rest) session = .error fault ended) :
    program session = .error fault ended ∨
      ∃ value middle,
        program session = .ok value middle ∧
          rest value middle = .error fault ended := by
  cases began : program session with
  | ok value middle =>
      rw [bind_of_ok began] at run
      exact .inr ⟨value, middle, rfl, run⟩
  | error stop middle =>
      rw [bind_of_error began] at run
      cases run
      exact .inl rfl

/-- Whether a program that raises a fault leaves what the database holds. -/
structure KeepsIfRaised (program : SessionProgram ε α) : Prop where
  raised :
    ∀ {session ended fault},
      program session = .error fault ended →
      ended.committed = session.committed

/-- Whether a program leaves what the database holds, however it ends. -/
structure Keeps (program : SessionProgram ε α) : Prop
    extends KeepsIfRaised program where
  returned :
    ∀ {session ended value},
      program session = .ok value ended →
      ended.committed = session.committed

theorem Keeps.pure
    (value : α) :
    Keeps (pure value : SessionProgram ε α) where
  returned run := by
    cases run
    rfl
  raised run := by
    cases run

theorem Keeps.throw
    (fault : ε) :
    Keeps (throw fault : SessionProgram ε α) where
  returned run := by
    cases run
  raised run := by
    cases run
    rfl

theorem Keeps.get :
    Keeps (get : SessionProgram ε Session) where
  returned run := by
    cases run
    rfl
  raised run := by
    cases run

theorem Keeps.modify
    {change : Session → Session}
    (keeps : ∀ session, (change session).committed = session.committed) :
    Keeps (modify change : SessionProgram ε Unit) where
  returned {session _ _} run := by
    cases run
    exact keeps session
  raised run := by
    cases run

/-- After a part that leaves the database, only the rest can fail to do so. -/
theorem Keeps.bind_ifRaised
    (first : Keeps program)
    (later : ∀ value, KeepsIfRaised (rest value)) :
    KeepsIfRaised (program >>= rest) where
  raised run := by
    rcases bind_eq_error run with began | ⟨value, middle, began, continued⟩
    · exact first.raised began
    · exact ((later value).raised continued).trans (first.returned began)

theorem Keeps.bind
    (first : Keeps program)
    (later : ∀ value, Keeps (rest value)) :
    Keeps (program >>= rest) where
  toKeepsIfRaised :=
    first.bind_ifRaised fun value => (later value).toKeepsIfRaised
  returned run := by
    obtain ⟨value, middle, began, continued⟩ := bind_eq_ok run
    exact ((later value).returned continued).trans (first.returned began)

/-- A result that cannot fail to come adds no fault. -/
theorem KeepsIfRaised.bind_pure
    (first : KeepsIfRaised program)
    (result : β) :
    KeepsIfRaised (program >>= fun _ => Pure.pure result) where
  raised run := by
    rcases bind_eq_error run with began | ⟨_, _, _, continued⟩
    · exact first.raised began
    · cases continued

end Programs

theorem keeps_unlessRefused
    (refusal : Option ε) :
    Keeps (unlessRefused refusal) := by
  cases refusal with
  | none =>
      exact .pure ()
  | some fault =>
      exact .throw fault

theorem keeps_modifyWork
    (step : SyncState → SyncState) :
    Keeps (modifyWork step : SessionProgram ε Unit) :=
  .modify fun _ => rfl

section Sync

variable (engine : Engine ε)

/-- Writing goes into the transaction alone. -/
theorem keeps_write :
    Keeps (write engine) := by
  unfold write
  refine .bind .get fun session => ?_
  refine .bind (keeps_unlessRefused _) fun _ => ?_
  exact .modify fun _ => rfl

theorem keeps_ask
    (id : Text) :
    Keeps (ask engine id) := by
  unfold ask
  refine .bind .get fun session => ?_
  exact .bind (keeps_unlessRefused _) fun _ => .pure _

theorem keeps_find
    (id : Text) :
    Keeps (find engine id) := by
  unfold find
  refine .bind .get fun session => ?_
  split
  · exact .pure _
  · exact .bind (keeps_write engine) fun _ => keeps_ask engine id

theorem keeps_lookUp
    (id : Text) :
    Keeps (lookUp engine id) := by
  unfold lookUp
  refine .bind (keeps_find engine id) fun found => ?_
  exact .bind (keeps_modifyWork _) fun _ => .pure _

theorem keeps_take
    (template : SourceTemplate) :
    Keeps (take engine template) := by
  unfold take
  refine .bind (keeps_lookUp engine _) fun found => ?_
  split
  · exact keeps_modifyWork _
  · exact keeps_modifyWork _

/-- A run over files leaves the database, wherever it stops. -/
theorem keeps_takeEach
    (readings : List (Reading ε)) :
    Keeps (takeEach engine readings) := by
  induction readings with
  | nil =>
      exact .pure ()
  | cons reading rest inductionHypothesis =>
      match reading with
      | .error fault =>
          exact .throw fault
      | .ok none =>
          exact inductionHypothesis
      | .ok (some template) =>
          exact .bind (keeps_take engine template) fun _ =>
            inductionHypothesis

/-- A commit that raises a fault has not taken place. -/
theorem keepsIfRaised_commit :
    KeepsIfRaised (commit engine) := by
  unfold commit
  refine (keeps_write engine).bind_ifRaised fun _ => ?_
  refine Keeps.get.bind_ifRaised fun session => ?_
  refine (keeps_unlessRefused _).bind_ifRaised fun _ => ?_
  constructor
  intro _ _ _ run
  cases run

theorem keepsIfRaised_finish :
    KeepsIfRaised (finish engine) := by
  unfold finish
  refine Keeps.get.bind_ifRaised fun session => ?_
  dsimp only
  split
  · exact (keepsIfRaised_commit engine).bind_pure _
  · exact (Keeps.pure _).toKeepsIfRaised

/-- A sync that raises a fault leaves what the database holds. -/
theorem keepsIfRaised_sync
    (readings : List (Reading ε)) :
    KeepsIfRaised (sync engine readings) :=
  (keeps_takeEach engine readings).bind_ifRaised fun _ =>
    keepsIfRaised_finish engine

variable
  {engine}
  {readings : List (Reading ε)}
  {store after : Store}
  {fault : ε}

/-- A session whose sync raised a fault leaves the database as it found it. -/
theorem eq_of_enclose_sync_eq_error
    (raised : enclose (sync engine readings) store = .error fault after) :
    after = store := by
  unfold enclose at raised
  cases run : sync engine readings (start store) with
  | ok report ended =>
      rw [run] at raised
      cases raised
  | error stop ended =>
      rw [run] at raised
      cases raised
      exact (keepsIfRaised_sync engine readings).raised run

/-- A service begins its work on what the sync left, whether or not it raised a fault. -/
theorem startUp_apply
    (engine : Engine ε)
    (readings : List (Reading ε))
    (store : Store) :
    startUp engine readings store =
      match enclose (sync engine readings) store with
      | .ok _ after => .ok () after
      | .error _ after => .ok () after := by
  change
    EStateM.tryCatch (EStateM.map (fun _ => ()) (enclose (sync engine readings)))
      _ store = _
  unfold EStateM.tryCatch EStateM.map
  cases enclose (sync engine readings) store with
  | ok report after =>
      rfl
  | error fault after =>
      rfl

end Sync

end Session

end ContractTemplates
