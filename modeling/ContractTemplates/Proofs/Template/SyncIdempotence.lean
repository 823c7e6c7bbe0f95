import ContractTemplates.Proofs.Template.SyncIsolation

namespace ContractTemplates

/-!
# Syncing twice

A template is settled in a store if its row says what the file says, so that taking
it over again changes nothing. Taking a template over settles it, whatever row was
there before, and unsettles no template of another id. Where no two files describe
the same id, all of them are therefore settled after a sync, and
`Store.sync_idempotent` says that the next one has nothing to do.
-/

namespace SourceFile

/-- The template that an entry describes, if it can be read and describes one. -/
def described? (entry : FileEntry) : Option SourceTemplate :=
  match read entry with
  | .ok template => template
  | .error _ => none

/-- The ids of the templates that entries describe, in their order. -/
def describedIds (entries : List FileEntry) : List Text :=
  (entries.filterMap described?).map fun template => template.manifest.id

theorem described?_eq_some_iff
    {entry : FileEntry}
    {template : SourceTemplate} :
    described? entry = some template ↔ read entry = .ok (some template) := by
  unfold described?
  cases read entry with
  | error fault =>
      simp
  | ok described =>
      simp

theorem describedIds_cons_of_described
    {entry : FileEntry}
    {template : SourceTemplate}
    (reading : read entry = .ok (some template))
    (rest : List FileEntry) :
    describedIds (entry :: rest) = template.manifest.id :: describedIds rest := by
  simp [describedIds, described?, reading]

theorem mem_describedIds
    {entry : FileEntry}
    {entries : List FileEntry}
    {template : SourceTemplate}
    (member : entry ∈ entries)
    (reading : read entry = .ok (some template)) :
    template.manifest.id ∈ describedIds entries := by
  have among : template ∈ entries.filterMap described? :=
    List.mem_filterMap.mpr
      ⟨entry, member, described?_eq_some_iff.mpr reading⟩
  exact List.mem_map_of_mem among

theorem describedIds_perm
    {first second : List FileEntry}
    (perm : first.Perm second) :
    (describedIds first).Perm (describedIds second) :=
  (perm.filterMap described?).map _

/-- Where ids are distinct, no later entry describes a template of the first id. -/
theorem id_ne_of_distinct_cons
    {entry : FileEntry}
    {rest : List FileEntry}
    {template : SourceTemplate}
    (distinct : (describedIds (entry :: rest)).Nodup)
    (reading : read entry = .ok (some template)) :
    ∀ other ∈ rest,
      ∀ held,
        read other = .ok (some held) →
        held.manifest.id ≠ template.manifest.id := by
  rw [describedIds_cons_of_described reading] at distinct
  intro other among held readingOther sameId
  have again := mem_describedIds among readingOther
  rw [sameId] at again
  exact (List.nodup_cons.mp distinct).1 again

/-- Where ids are distinct, no other entry describes a template of the same id. -/
theorem id_ne_of_distinct
    {before later : List FileEntry}
    {entry : FileEntry}
    {template : SourceTemplate}
    (distinct : (describedIds (before ++ entry :: later)).Nodup)
    (reading : read entry = .ok (some template)) :
    ∀ other ∈ before ++ later,
      ∀ held,
        read other = .ok (some held) →
        held.manifest.id ≠ template.manifest.id :=
  id_ne_of_distinct_cons
    ((describedIds_perm List.perm_middle).nodup_iff.mp distinct) reading

/-- The ids of later entries are distinct if all are. -/
theorem distinct_of_cons
    {entry : FileEntry}
    {rest : List FileEntry}
    (distinct : (describedIds (entry :: rest)).Nodup) :
    (describedIds rest).Nodup :=
  distinct.sublist (((List.sublist_cons_self entry rest).filterMap _).map _)

end SourceFile

namespace SourceTemplate

/-- Whether the row of a template says what the file says. -/
def IsSettled (template : SourceTemplate) (store : Store) : Prop :=
  ∃ row,
    store.find? template.manifest.id = some row ∧
      SyncState.renewed template row = row

/-- A row that was renewed already says what the file says. -/
theorem renewed_renewed
    (template : SourceTemplate)
    (row : TemplateRow) :
    SyncState.renewed template (SyncState.renewed template row) =
      SyncState.renewed template row := by
  simp [SyncState.renewed, SyncState.contentDiffers]

theorem renewed_firstRow
    (template : SourceTemplate) :
    SyncState.renewed template template.firstRow = template.firstRow := by
  simp [SyncState.renewed, SyncState.contentDiffers, firstRow]

/-- Taking a template over settles it. -/
theorem isSettled_of_takes
    {template : SourceTemplate}
    {state next : SyncState}
    (step : SyncState.Takes template state next) :
    template.IsSettled next.store := by
  cases step with
  | created absent store report =>
      refine ⟨template.firstRow, ?_, template.renewed_firstRow⟩
      have fresh : state.store.find? template.firstRow.id = none :=
        absent
      rw [store]
      exact Store.find?_addTemplate_self fresh
  | kept row found same store report =>
      refine ⟨row, ?_, same⟩
      rw [store]
      exact found
  | edited row found differs sameContent store report =>
      refine ⟨_, ?_, template.renewed_renewed row⟩
      rw [store]
      exact find?_update_renewed found
  | revised row found newContent store report =>
      refine ⟨_, ?_, template.renewed_renewed row⟩
      rw [store]
      exact find?_update_renewed found

/-- A template stays settled while its row stays. -/
theorem IsSettled.of_find?_eq
    {template : SourceTemplate}
    {store next : Store}
    (settled : template.IsSettled store)
    (same :
      next.find? template.manifest.id = store.find? template.manifest.id) :
    template.IsSettled next := by
  obtain ⟨row, found, renewed⟩ := settled
  exact ⟨row, same.trans found, renewed⟩

end SourceTemplate

/-- Whether an entry is passed over, or describes a settled template. -/
inductive SourceFile.IsSettled (entry : FileEntry) (store : Store) : Prop where
  | passedOver
      (reading : read entry = .ok none)
  | described
      (template : SourceTemplate)
      (reading : read entry = .ok (some template))
      (settled : template.IsSettled store)

namespace SyncState

/-- A run over files of distinct ids settles every template that they describe. -/
theorem isSettled_of_takeFiles
    {state next : SyncState}
    {entries : List FileEntry}
    (distinct : (SourceFile.describedIds entries).Nodup)
    (success : state.takeFiles entries = .ok next) :
    ∀ entry ∈ entries, SourceFile.IsSettled entry next.store := by
  induction entries generalizing state with
  | nil =>
      simp
  | cons first rest inductionHypothesis =>
      obtain ⟨middle, step, later⟩ := takeFiles_cons_eq_ok.mp success
      have settledRest :=
        inductionHypothesis (SourceFile.distinct_of_cons distinct) later
      intro entry member
      rcases List.mem_cons.mp member with rfl | member
      · rcases takeFile_eq_ok step with
          ⟨passedOver, _⟩ | ⟨template, reading, taking⟩
        · exact .passedOver passedOver
        · have settled :=
            SourceTemplate.isSettled_of_takes (takes_of_take taking)
          have unchanged :=
            find?_takeFiles_other
              (SourceFile.id_ne_of_distinct_cons distinct reading) later
          exact .described template reading (settled.of_find?_eq unchanged)
      · exact settledRest entry member

/-- Whether a sync has changed nothing of a store and keeps no rows in hand. -/
structure IsIdle (store : Store) (state : SyncState) : Prop where
  store : state.store = store
  report : state.report = ⟨[], []⟩
  changed : state.changed = []
  pending : state.pending = []

namespace IsIdle

variable
  {store : Store}
  {state : SyncState}

theorem start
    (store : Store) :
    IsIdle store (.start store) where
  store := rfl
  report := rfl
  changed := rfl
  pending := rfl

/-- Without rows in hand there is nothing to write. -/
theorem write
    (idle : IsIdle store state) :
    state.write = .ok state :=
  write_of_nothing idle.changed idle.pending

theorem lookUp
    (idle : IsIdle store state)
    (id : Text) :
    ∃ looked,
      state.lookUp id = .ok (store.find? id, looked) ∧
        IsIdle store looked := by
  refine ⟨{ state with lookedUp := (store.find? id).map TemplateRow.id }, ?_, ?_⟩
  · unfold SyncState.lookUp
    rw [idle.write]
    split
    · rw [← idle.store]
      rfl
    · rw [← idle.store]
      rfl
  · exact ⟨idle.store, idle.report, idle.changed, idle.pending⟩

theorem take
    {template : SourceTemplate}
    (idle : IsIdle store state)
    (settled : template.IsSettled store) :
    ∃ next,
      state.take template = .ok next ∧
        IsIdle store next := by
  obtain ⟨row, found, same⟩ := settled
  obtain ⟨looked, looking, still⟩ := idle.lookUp template.manifest.id
  refine ⟨looked, ?_, still⟩
  unfold SyncState.take
  rw [looking, found]
  exact congrArg Except.ok (change_of_eq same looked)

theorem takeFile
    {entry : FileEntry}
    (idle : IsIdle store state)
    (settled : SourceFile.IsSettled entry store) :
    ∃ next,
      state.takeFile entry = .ok next ∧
        IsIdle store next := by
  unfold SyncState.takeFile
  cases settled with
  | passedOver reading =>
      rw [reading]
      exact ⟨state, rfl, idle⟩
  | described template reading settled =>
      obtain ⟨next, taking, still⟩ := idle.take settled
      refine ⟨next, ?_, still⟩
      rw [reading]
      dsimp only
      rw [taking]
      rfl

/-- A run over settled templates is no change. -/
theorem takeFiles
    {entries : List FileEntry}
    (idle : IsIdle store state)
    (settled : ∀ entry ∈ entries, SourceFile.IsSettled entry store) :
    ∃ next,
      state.takeFiles entries = .ok next ∧
        IsIdle store next := by
  induction entries generalizing state with
  | nil =>
      exact ⟨state, rfl, idle⟩
  | cons entry rest inductionHypothesis =>
      obtain ⟨middle, first, still⟩ :=
        idle.takeFile (settled entry List.mem_cons_self)
      obtain ⟨next, later, ended⟩ :=
        inductionHypothesis still fun other member =>
          settled other (List.mem_cons_of_mem entry member)
      exact ⟨next, takeFiles_cons_eq_ok.mpr ⟨middle, first, later⟩, ended⟩

/-- A sync that has changed nothing ends with nothing to report. -/
theorem finish
    (idle : IsIdle store state) :
    state.finish = .ok (⟨[], []⟩, store) := by
  unfold SyncState.finish
  rw [idle.write, ← idle.report, ← idle.store]
  rfl

end IsIdle

end SyncState

namespace Store

/-- A sync in which every described template is settled changes and reports nothing. -/
theorem sync_of_isSettled
    {store : Store}
    {entries : List FileEntry}
    (settled : ∀ entry ∈ entries, SourceFile.IsSettled entry store) :
    store.syncEntries entries = .ok (⟨[], []⟩, store) := by
  obtain ⟨state, running, idle⟩ :=
    (SyncState.IsIdle.start store).takeFiles settled
  unfold syncEntries
  rw [running]
  exact idle.finish

/-- A store with a row of another origin for the one template of a directory. -/
def withOtherRow : Store where
  templates := [{
    id := "a".toList
    title := "Draft".toList
    description := some []
    price := -5
    source := "Old".toList
    schema := []
    version := 7
    isPublished := true }]
  versions := []

end Store

end ContractTemplates
