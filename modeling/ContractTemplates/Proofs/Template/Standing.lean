import ContractTemplates.Proofs.Template.SyncIdempotence

namespace ContractTemplates

/-!
# What a sync does to one template

A sync treats every template apart from the others. `Standing` is what there is of
one template in the course of a sync, `Standing.take` is what one file does to it,
and `Store.standing_of_sync` says that a sync is this step for each of the files
that declare the id, one after the other in the order of their locations.

Where several files declare one id, each of them counts for itself: the second is
compared with what the first has left.
-/

namespace SourceFile

/-- The templates with an id that entries describe, in their order. -/
def declaring (id : Text) (entries : List FileEntry) : List SourceTemplate :=
  (entries.filterMap described?).filter fun template =>
    template.manifest.id == id

theorem declaring_cons_of_passedOver
    {entry : FileEntry}
    (passedOver : read entry = .ok none)
    (id : Text)
    (rest : List FileEntry) :
    declaring id (entry :: rest) = declaring id rest := by
  simp [declaring, described?, passedOver]

theorem declaring_cons_self
    {entry : FileEntry}
    {template : SourceTemplate}
    (reading : read entry = .ok (some template))
    (rest : List FileEntry) :
    declaring template.manifest.id (entry :: rest) =
      template :: declaring template.manifest.id rest := by
  simp [declaring, described?, reading]

theorem declaring_cons_other
    {entry : FileEntry}
    {template : SourceTemplate}
    (reading : read entry = .ok (some template))
    {id : Text}
    (other : template.manifest.id ≠ id)
    (rest : List FileEntry) :
    declaring id (entry :: rest) = declaring id rest := by
  simp [declaring, described?, reading, other]

end SourceFile

/-- What there is of one template in the course of a sync. -/
@[ext]
structure Standing where
  row : Option TemplateRow
  versions : List VersionRow
  /-- How often the report names the template as created. -/
  created : Nat
  /-- How often the report names the template as changed. -/
  updated : Nat

namespace Standing

/-- What a store and a report have of the template with an id. -/
def of (store : Store) (report : SyncReport) (id : Text) : Standing where
  row := store.find? id
  versions := store.versionsOf id
  created := report.created.count id
  updated := report.updated.count id

/-- What one file that declares the template makes of it. -/
def take (standing : Standing) (template : SourceTemplate) : Standing :=
  match standing.row with
  | none => {
      row := some template.firstRow
      versions :=
        standing.versions ++
          [.ofTemplate template.firstRow VersionRow.initialLog]
      created := standing.created + 1
      updated := standing.updated }
  | some row =>
      let next := SyncState.renewed template row
      if next = row then
        standing
      else {
        row := some next
        versions :=
          standing.versions ++
            if SyncState.contentDiffers template row then
              [.ofTemplate next VersionRow.revisionLog]
            else
              []
        created := standing.created
        updated := standing.updated + 1 }

variable
  {standing : Standing}
  {row : TemplateRow}
  (template : SourceTemplate)

theorem take_of_absent
    (absent : standing.row = none) :
    standing.take template = {
      row := some template.firstRow
      versions :=
        standing.versions ++
          [.ofTemplate template.firstRow VersionRow.initialLog]
      created := standing.created + 1
      updated := standing.updated } := by
  simp only [take, absent]

theorem take_of_same
    (held : standing.row = some row)
    (same : SyncState.renewed template row = row) :
    standing.take template = standing := by
  simp only [take, held, same, if_true]

theorem take_of_differs
    (held : standing.row = some row)
    (differs : SyncState.renewed template row ≠ row) :
    standing.take template = {
      row := some (SyncState.renewed template row)
      versions :=
        standing.versions ++
          if SyncState.contentDiffers template row then
            [.ofTemplate (SyncState.renewed template row)
              VersionRow.revisionLog]
          else
            []
      created := standing.created
      updated := standing.updated + 1 } := by
  simp only [take, held, differs, if_false]

end Standing

namespace SyncState

namespace Takes

variable
  {template : SourceTemplate}
  {state next : SyncState}

/-- Taking a template over is a step of its own standing. -/
theorem standing_self
    (step : Takes template state next) :
    Standing.of next.store next.report template.manifest.id =
      (Standing.of state.store state.report template.manifest.id).take
        template := by
  cases step with
  | created absent store report =>
      have fresh : state.store.find? template.firstRow.id = none := absent
      have found := Store.find?_addTemplate_self fresh
      rw [Standing.take_of_absent template absent, store, report]
      apply Standing.ext
      case row =>
        exact found
      case versions =>
        exact (Store.versionsOf_addVersion ..).trans
          (congrArg _ (if_pos rfl))
      case created =>
        simp [Standing.of]
      case updated =>
        rfl
  | kept row found same store report =>
      rw [Standing.take_of_same template found same, store, report]
  | edited row found differs sameContent store report =>
      obtain ⟨_, sameId⟩ := Store.mem_of_find?_eq_some found
      rw [Standing.take_of_differs template found differs, store, report]
      apply Standing.ext
      case row =>
        exact SourceTemplate.find?_update_renewed found
      case versions =>
        simp [sameContent, Standing.of, Store.versionsOf, Store.update]
      case created =>
        rfl
      case updated =>
        simp [Standing.of, sameId]
  | revised row found newContent store report =>
      obtain ⟨_, sameId⟩ := Store.mem_of_find?_eq_some found
      have differs := renewed_ne_of_contentDiffers newContent
      rw [Standing.take_of_differs template found differs, store, report]
      apply Standing.ext
      case row =>
        exact SourceTemplate.find?_update_renewed found
      case versions =>
        rw [if_pos newContent]
        exact (Store.versionsOf_addVersion ..).trans
          (congrArg _ (if_pos sameId))
      case created =>
        rfl
      case updated =>
        simp [Standing.of, sameId]

/-- Taking a template over leaves the others where they stand. -/
theorem standing_other
    (step : Takes template state next)
    {id : Text}
    (other : template.manifest.id ≠ id) :
    Standing.of next.store next.report id =
      Standing.of state.store state.report id := by
  have sameRow := step.find?_other other
  unfold Standing.of
  rw [sameRow]
  cases step with
  | created absent store report =>
      rw [store, report, Store.versionsOf_addVersion]
      have unowned :
          (VersionRow.ofTemplate template.firstRow
            VersionRow.initialLog).templateId ≠ id :=
        other
      simp [unowned, other, Store.versionsOf, Store.addTemplate]
  | kept row found same store report =>
      rw [store, report]
  | edited row found differs sameContent store report =>
      obtain ⟨_, sameId⟩ := Store.mem_of_find?_eq_some found
      rw [← sameId] at other
      rw [store, report]
      simp [other, Store.versionsOf, Store.update]
  | revised row found newContent store report =>
      obtain ⟨_, sameId⟩ := Store.mem_of_find?_eq_some found
      rw [← sameId] at other
      have unowned :
          (VersionRow.ofTemplate (renewed template row)
            VersionRow.revisionLog).templateId ≠ id :=
        other
      rw [store, report, Store.versionsOf_addVersion]
      simp [unowned, other, Store.versionsOf, Store.update]

end Takes

/--
What is seen of one template in the course of a run goes through the steps of the files
that declare it, if every file of another template leaves it as it is.
-/
theorem view_of_takeFiles
    (view : Store → SyncReport → α)
    (taken : α → SourceTemplate → α)
    {id : Text}
    (self :
      ∀ {template state next},
        Takes template state next →
        template.manifest.id = id →
        view next.store next.report =
          taken (view state.store state.report) template)
    (other :
      ∀ {template state next},
        Takes template state next →
        template.manifest.id ≠ id →
        view next.store next.report = view state.store state.report)
    {state next : SyncState}
    {entries : List FileEntry}
    (success : state.takeFiles entries = .ok next) :
    view next.store next.report =
      (SourceFile.declaring id entries).foldl taken
        (view state.store state.report) := by
  induction entries generalizing state with
  | nil =>
      cases success
      rfl
  | cons entry rest inductionHypothesis =>
      obtain ⟨middle, first, later⟩ := takeFiles_cons_eq_ok.mp success
      rw [inductionHypothesis later]
      rcases takeFile_eq_ok first with
        ⟨passedOver, rfl⟩ | ⟨template, reading, taking⟩
      · rw [SourceFile.declaring_cons_of_passedOver passedOver]
      · have step := takes_of_take taking
        by_cases same : template.manifest.id = id
        · rw [self step same]
          subst same
          rw [SourceFile.declaring_cons_self reading]
          rfl
        · rw [SourceFile.declaring_cons_other reading same, other step same]

/-- A run is, for one template, the steps of the files that declare it. -/
theorem standing_of_takeFiles
    {state next : SyncState}
    {entries : List FileEntry}
    (success : state.takeFiles entries = .ok next)
    (id : Text) :
    Standing.of next.store next.report id =
      (SourceFile.declaring id entries).foldl Standing.take
        (Standing.of state.store state.report id) := by
  apply view_of_takeFiles
    (fun store report => Standing.of store report id) Standing.take _ _ success
  · rintro template state next step rfl
    exact step.standing_self
  · intro template state next step different
    exact step.standing_other different

end SyncState

namespace Store

theorem eq_ok_of_toOption
    {outcome : Except SyncFault (SyncReport × Store)}
    {result : SyncReport × Store}
    (success : outcome.toOption = some result) :
    outcome = .ok result := by
  cases outcome with
  | error fault =>
      cases success
  | ok value =>
      cases success
      rfl

/-- A sync is, for one template, the steps of the files that declare it. -/
theorem standing_of_sync
    {store next : Store}
    {directory : Location}
    {files : Files}
    {report : SyncReport}
    (success : store.sync directory files = .ok (report, next))
    (id : Text) :
    Standing.of next report id =
      (SourceFile.declaring id (SourceFile.all directory files)).foldl
        Standing.take (Standing.of store ⟨[], []⟩ id) := by
  obtain ⟨state, _, running, _, rfl, rfl⟩ := syncEntries_eq_ok success
  exact SyncState.standing_of_takeFiles running id

variable
  {store next : Store}
  {directory : Location}
  {files : Files}
  {report : SyncReport}
  {entry : FileEntry}
  {template : SourceTemplate}

/-- A sync of one file takes over what it describes and does nothing else. -/
theorem takes_of_sync_single
    (listed : SourceFile.all directory files = [entry])
    (reading : SourceFile.read entry = .ok (some template))
    (success : store.sync directory files = .ok (report, next)) :
    ∃ state,
      SyncState.Takes template (.start store) state ∧
        state.store = next ∧
        state.report = report := by
  unfold sync at success
  rw [listed] at success
  exact takes_of_syncEntries_single reading success

/-- A file of a template that is not stored gives it its first row. -/
theorem find?_sync_single_of_absent
    (listed : SourceFile.all directory files = [entry])
    (reading : SourceFile.read entry = .ok (some template))
    (absent : store.find? template.manifest.id = none)
    (success : store.sync directory files = .ok (report, next)) :
    next.find? template.manifest.id = some template.firstRow := by
  obtain ⟨state, step, rfl, _⟩ := takes_of_sync_single listed reading success
  have row := congrArg Standing.row step.standing_self
  rw [Standing.take_of_absent template absent] at row
  exact row

end Store

end ContractTemplates
