import ContractTemplates.Proofs.Template.SessionSync
import ContractTemplates.Service.Basic

namespace ContractTemplates

/-!
# Syncs that stop

A sync that raises a fault leaves no trace in the database, at whatever step and for
whatever reason it stops, and a service begins its work in spite of it.
`Service.raised_sync_leaves_store` says so for the sync in a session, and that this
sync is the one by which the service answers and begins its work.
-/

namespace Service

variable {m : Type → Type}

/-- What a sync gets from reading the template files of a service. -/
def readings (service : Service m) : List (Reading SyncFault) :=
  (SourceFile.all service.templatesLocation service.files).map
    SourceFile.reading

/-- A sync in a session has the outcome of the sync of the service. -/
theorem enclose_sync
    (service : Service m) :
    Session.enclose (Session.sync .ofRows service.readings) service.store =
      match service.sync with
      | .ok (report, next) => .ok report next
      | .error fault => .error fault service.store :=
  Session.enclose_sync_ofRows _ _

/-- A service begins its work on the store that the sync in a session leaves. -/
theorem startUp_eq_started
    (service : Service m) :
    Session.startUp .ofRows service.readings service.store =
      .ok () service.started := by
  rw [Session.startUp_apply, enclose_sync]
  unfold started
  cases service.sync with
  | ok result =>
      rfl
  | error fault =>
      rfl

/--
If a sync raises a fault, whatever the database refuses and whatever becomes of
reading the files, then the database holds what it held before the sync, and a
service that begins with this sync begins its work on just that.

With the template files of the service, and a database that refuses only rows that cannot
be stored, the sync in a session is the sync of the service.
-/
theorem raised_sync_leaves_store
    (service : Service m) :
    (∀ {ε : Type} {engine : Engine ε} {readings : List (Reading ε)}
        {fault : ε} {after : Store},
      Session.enclose (Session.sync engine readings) service.store =
          .error fault after →
        after = service.store ∧
          Session.startUp engine readings service.store =
            .ok () service.store) ∧
      (Session.enclose (Session.sync .ofRows service.readings) service.store =
          match service.sync with
          | .ok (report, next) => .ok report next
          | .error fault => .error fault service.store) ∧
      Session.startUp .ofRows service.readings service.store =
        .ok () service.started ∧
      ∀ {fault : SyncFault},
        service.sync = .error fault →
          service.started = service.store ∧
            service.synced = (.unforeseen, service.store) := by
  refine ⟨?_, service.enclose_sync, service.startUp_eq_started, ?_⟩
  · intro ε engine readings fault after raised
    have unchanged := Session.eq_of_enclose_sync_eq_error raised
    refine ⟨unchanged, ?_⟩
    rw [Session.startUp_apply, raised, unchanged]
  · intro fault raised
    constructor
    · unfold started
      rw [raised]
    · unfold synced
      rw [raised]

/-- A template file with an id and a title. -/
def templateFile (id title : String) : FileEntry :=
  .file (Text.utf8
    ("/*---\nid: " ++ id ++ "\ntitle: " ++ title ++ "\n---*/\nBody").toList)

/--
A service whose files change a stored template, describe a new one and are no text,
in this order.
-/
def ofUndecodableFile : Service Id where
  settings := .standard
  store := Store.withOtherRow
  files := [
    (["templates".toList, "a.typ".toList], templateFile "a" "A"),
    (["templates".toList, "b.typ".toList], templateFile "b" "B"),
    (["templates".toList, "c.typ".toList], .file [0xFF])]
  home := []
  compile _ := .ok []
  supply := .shared
  isInstalled := fun _ => true
  host := "localhost".toList
  timeMark := []

/-- Where a program of a session that raised a fault was left. -/
def stopped? {ε α : Type} : EStateM.Result ε Session α → Option (ε × Session)
  | .ok _ _ => none
  | .error fault ended => some (fault, ended)

theorem eq_error_of_stopped?
    {ε α : Type}
    {fault : ε}
    {ended : Session}
    {result : EStateM.Result ε Session α}
    (left : stopped? result = some (fault, ended)) :
    result = .error fault ended := by
  cases result with
  | ok value ended =>
      cases left
  | error fault ended =>
      cases left
      rfl

/--
The sync stops when the changed template has been written into the transaction and
the new one is still in hand; the service begins its work on neither.
-/
theorem raised_sync_leaves_store_ofUndecodableFile :
    ∃ ended,
      Session.sync .ofRows ofUndecodableFile.readings
            (Session.start ofUndecodableFile.store) =
          .error (.source .notUtf8) ended ∧
        ended.work.report = ⟨["b".toList], ["a".toList]⟩ ∧
        (ended.transaction.find? "a".toList).map TemplateRow.version =
          some 8 ∧
        Session.startUp .ofRows ofUndecodableFile.readings
            ofUndecodableFile.store =
          .ok () Store.withOtherRow ∧
        ofUndecodableFile.synced = (.unforeseen, Store.withOtherRow) := by
  have listed :
      SourceFile.all ofUndecodableFile.templatesLocation
          ofUndecodableFile.files =
        [templateFile "a" "A", templateFile "b" "B", .file [0xFF]] := by
    unfold SourceFile.all
    dsimp only
    rw [List.mergeSort_of_pairwise (by decide +kernel)]
    decide +kernel
  have shown :
      (stopped? (Session.sync .ofRows ofUndecodableFile.readings
          (Session.start ofUndecodableFile.store))).map
          (fun left =>
            (left.1, left.2.work.report,
              (left.2.transaction.find? "a".toList).map
                TemplateRow.version)) =
        some (.source .notUtf8, ⟨["b".toList], ["a".toList]⟩, some 8) := by
    unfold readings
    rw [listed]
    decide +kernel
  obtain ⟨⟨fault, ended⟩, left, seen⟩ := Option.map_eq_some_iff.mp shown
  obtain ⟨isFault, seen⟩ := Prod.mk.inj seen
  obtain ⟨report, version⟩ := Prod.mk.inj seen
  dsimp only at isFault
  subst isFault
  have run := eq_error_of_stopped? left
  have raised :
      Session.enclose (Session.sync .ofRows ofUndecodableFile.readings)
          ofUndecodableFile.store =
        .error (.source .notUtf8) ended.committed := by
    unfold Session.enclose
    rw [run]
    rfl
  obtain ⟨leaves, same, _, stays⟩ :=
    raised_sync_leaves_store ofUndecodableFile
  refine ⟨ended, run, report, version, (leaves raised).2, ?_⟩
  cases syncing : ofUndecodableFile.sync with
  | ok result =>
      rw [raised, syncing] at same
      cases same
  | error stop =>
      exact (stays syncing).2

end Service

end ContractTemplates
