import ContractTemplates.Proofs.Template.StoreRows
import ContractTemplates.Proofs.Template.SyncStep

namespace ContractTemplates

/-!
# The history of versions

In a store that was filled by syncs alone, the versions of a template are
numbered from one to its current version without gaps or repetitions, and the
current one holds what the row holds. `Store.VersionHistory` is this invariant.
Taking over one template keeps it, whether that creates, keeps, edits or revises
a row, and never touches a version that is already there.
-/

namespace Store

/-- The numbers from one to the current version of a template. -/
def versionNumbers (current : Int) : List Int :=
  (List.range current.toNat).map fun (past : Nat) => (past : Int) + 1

/-- Every template has its whole history, and nothing else has any. -/
structure VersionHistory (store : Store) : Prop where
  idsDistinct :
    (store.templates.map TemplateRow.id).Nodup
  begun :
    ∀ row ∈ store.templates, 1 ≤ row.version
  numbered :
    ∀ row ∈ store.templates,
      (store.versionsOf row.id).map VersionRow.version =
        versionNumbers row.version
  current :
    ∀ row ∈ store.templates,
      ∀ version ∈ store.versionsOf row.id,
        version.version = row.version →
        version.source = row.source ∧ version.schema = row.schema
  named :
    ∀ version ∈ store.versions,
      version.id = VersionRow.idOf version.templateId version.version
  logged :
    ∀ version ∈ store.versions,
      version.changelog =
        some
          (if version.version = 1 then
            VersionRow.initialLog
          else
            VersionRow.revisionLog)
  owned :
    ∀ version ∈ store.versions,
      ∃ row ∈ store.templates, row.id = version.templateId

/-- The number of a version comes after those of the versions before it. -/
theorem versionNumbers_eq_append
    {current : Int}
    (begun : 1 ≤ current) :
    versionNumbers current = versionNumbers (current - 1) ++ [current] := by
  have next : current.toNat = (current - 1).toNat + 1 := by
    omega
  have last : (((current - 1).toNat : Nat) : Int) + 1 = current := by
    omega
  unfold versionNumbers
  rw [next, List.range_succ, List.map_append, List.map_singleton, last]

theorem le_of_mem_versionNumbers
    {current number : Int}
    (member : number ∈ versionNumbers current) :
    number ≤ current := by
  simp only [versionNumbers, List.mem_map, List.mem_range] at member
  obtain ⟨past, bound, rfl⟩ := member
  omega

namespace VersionHistory

theorem empty :
    VersionHistory Store.empty where
  idsDistinct :=
    List.nodup_nil
  begun := by
    simp [Store.empty]
  numbered := by
    simp [Store.empty]
  current := by
    simp [Store.empty]
  named := by
    simp [Store.empty]
  logged := by
    simp [Store.empty]
  owned := by
    simp [Store.empty]

/-- A template that is not stored has no versions. -/
theorem versionsOf_of_find?_eq_none
    {store : Store}
    (history : VersionHistory store)
    {id : Text}
    (absent : store.find? id = none) :
    store.versionsOf id = [] := by
  apply versionsOf_eq_nil
  intro version member sameId
  obtain ⟨row, stored, owner⟩ := history.owned version member
  exact find?_eq_none_iff.mp absent row stored (owner.trans sameId)

/-- After a row was put in, every version still belongs to a template. -/
theorem owned_of_puts
    {store next : Store}
    (history : VersionHistory store)
    {row : TemplateRow}
    (puts : store.Puts row next)
    {version : VersionRow}
    (member : version ∈ store.versions) :
    ∃ held ∈ next.templates, held.id = version.templateId := by
  obtain ⟨before, old, owner⟩ := history.owned version member
  by_cases sameRow : before.id = row.id
  · exact ⟨row, (puts.mem_iff row).mpr (.inl rfl), sameRow.symm.trans owner⟩
  · exact ⟨before, (puts.mem_iff before).mpr (.inr ⟨old, sameRow⟩), owner⟩

/-- A row with the version and the content of the one before changes no history. -/
theorem edit
    {store after : Store}
    (history : VersionHistory store)
    {row next : TemplateRow}
    (puts : store.Puts next after)
    (stored : row ∈ store.templates)
    (sameId : next.id = row.id)
    (sameVersion : next.version = row.version)
    (sameSource : next.source = row.source)
    (sameSchema : next.schema = row.schema) :
    VersionHistory after := by
  have atRow :
      ∀ held ∈ after.templates,
        ∃ before ∈ store.templates,
          before.id = held.id ∧
            before.version = held.version ∧
            before.source = held.source ∧
            before.schema = held.schema := by
    intro held member
    rcases (puts.mem_iff held).mp member with rfl | ⟨old, _⟩
    · exact ⟨row, stored, sameId.symm, sameVersion.symm,
        sameSource.symm, sameSchema.symm⟩
    · exact ⟨held, old, rfl, rfl, rfl, rfl⟩
  have versionsOfAny : ∀ id, after.versionsOf id = store.versionsOf id := by
    intro id
    unfold versionsOf
    rw [puts.versions]
  constructor
  case idsDistinct =>
    exact puts.idsDistinct history.idsDistinct
  case begun =>
    intro held member
    obtain ⟨before, old, _, version, _⟩ := atRow held member
    rw [← version]
    exact history.begun before old
  case numbered =>
    intro held member
    obtain ⟨before, old, id, version, _⟩ := atRow held member
    rw [versionsOfAny, ← id, ← version]
    exact history.numbered before old
  case current =>
    intro held member version belongs sameNumber
    obtain ⟨before, old, id, number, source, schema⟩ := atRow held member
    rw [← source, ← schema]
    rw [versionsOfAny, ← id] at belongs
    exact history.current before old version belongs
      (sameNumber.trans number.symm)
  case named =>
    rw [puts.versions]
    exact history.named
  case logged =>
    rw [puts.versions]
    exact history.logged
  case owned =>
    rw [puts.versions]
    intro version member
    exact history.owned_of_puts puts member

/-- A row whose past versions are there gets its own version after them. -/
theorem record
    {store after : Store}
    (history : VersionHistory store)
    {row : TemplateRow}
    {changelog : Text}
    (puts : store.Puts row after)
    (begun : 1 ≤ row.version)
    (past :
      (store.versionsOf row.id).map VersionRow.version =
        versionNumbers (row.version - 1))
    (log :
      changelog =
        if row.version = 1 then
          VersionRow.initialLog
        else
          VersionRow.revisionLog) :
    VersionHistory (after.addVersion (.ofTemplate row changelog)) := by
  have versionsOfAny :
      ∀ id,
        (after.addVersion (.ofTemplate row changelog)).versionsOf id =
          store.versionsOf id ++
            (if row.id = id then [.ofTemplate row changelog] else []) := by
    intro id
    rw [versionsOf_addVersion]
    unfold versionsOf
    rw [puts.versions]
    rfl
  have member_cases :
      ∀ version ∈ (after.addVersion (.ofTemplate row changelog)).versions,
        version ∈ store.versions ∨ version = .ofTemplate row changelog := by
    intro version member
    rw [← puts.versions]
    exact (List.mem_append.mp member).imp_right List.mem_singleton.mp
  constructor
  case idsDistinct =>
    exact puts.idsDistinct history.idsDistinct
  case begun =>
    intro held member
    rcases (puts.mem_iff held).mp member with rfl | ⟨old, _⟩
    · exact begun
    · exact history.begun held old
  case numbered =>
    intro held member
    rw [versionsOfAny]
    rcases (puts.mem_iff held).mp member with rfl | ⟨old, different⟩
    · rw [if_pos rfl, List.map_append, past, versionNumbers_eq_append begun]
      rfl
    · rw [if_neg different.symm, List.append_nil]
      exact history.numbered held old
  case current =>
    intro held member version belongs sameNumber
    rw [versionsOfAny] at belongs
    rcases (puts.mem_iff held).mp member with rfl | ⟨old, different⟩
    · rw [if_pos rfl] at belongs
      rcases List.mem_append.mp belongs with earlier | latest
      · -- An earlier version has an earlier number.
        have number := List.mem_map_of_mem (f := VersionRow.version) earlier
        rw [past] at number
        have bound := le_of_mem_versionNumbers number
        omega
      · cases List.mem_singleton.mp latest
        exact ⟨rfl, rfl⟩
    · rw [if_neg different.symm, List.append_nil] at belongs
      exact history.current held old version belongs sameNumber
  case named =>
    intro version member
    rcases member_cases version member with old | rfl
    · exact history.named version old
    · rfl
  case logged =>
    intro version member
    rcases member_cases version member with old | rfl
    · exact history.logged version old
    · exact congrArg some log
  case owned =>
    intro version member
    rcases member_cases version member with old | rfl
    · exact history.owned_of_puts puts old
    · exact ⟨row, (puts.mem_iff row).mpr (.inl rfl), rfl⟩

/-- A template that was not stored begins its history with its first version. -/
theorem create
    {store : Store}
    (history : VersionHistory store)
    {row : TemplateRow}
    (first : row.version = 1)
    (absent : store.find? row.id = none) :
    VersionHistory
      ((store.addTemplate row).addVersion
        (.ofTemplate row VersionRow.initialLog)) := by
  apply history.record (puts_addTemplate absent)
  · omega
  · rw [history.versionsOf_of_find?_eq_none absent, first]
    rfl
  · rw [if_pos first]

/-- Other content gives a template the version after its current one. -/
theorem revise
    {store : Store}
    (history : VersionHistory store)
    {row next : TemplateRow}
    (stored : row ∈ store.templates)
    (sameId : next.id = row.id)
    (nextVersion : next.version = row.version + 1) :
    VersionHistory
      ((store.update next).addVersion
        (.ofTemplate next VersionRow.revisionLog)) := by
  have begun := history.begun row stored
  apply history.record (puts_update stored sameId.symm)
  · omega
  · rw [sameId, history.numbered row stored, nextVersion, Int.add_sub_cancel]
  · rw [if_neg (by omega)]

/-- Taking over one template keeps the history. -/
theorem takes
    {template : SourceTemplate}
    {state next : SyncState}
    (step : SyncState.Takes template state next)
    (history : VersionHistory state.store) :
    VersionHistory next.store := by
  cases step with
  | created absent store report =>
      rw [store]
      exact history.create rfl absent
  | kept row found same store report =>
      rw [store]
      exact history
  | edited row found differs sameContent store report =>
      rw [store]
      obtain ⟨stored, _⟩ := mem_of_find?_eq_some found
      obtain ⟨sameSource, sameSchema⟩ :=
        SyncState.content_eq_of_not_contentDiffers sameContent
      exact history.edit (puts_update stored rfl) stored rfl
        (by simp [SyncState.renewed, sameContent])
        sameSource.symm sameSchema.symm
  | revised row found newContent store report =>
      rw [store]
      obtain ⟨stored, _⟩ := mem_of_find?_eq_some found
      exact history.revise stored rfl
        (by simp [SyncState.renewed, newContent])

end VersionHistory

/-- Taking over one template leaves every version in its place. -/
theorem versions_prefix_of_takes
    {template : SourceTemplate}
    {state next : SyncState}
    (step : SyncState.Takes template state next) :
    state.store.versions <+: next.store.versions := by
  cases step with
  | created absent store report =>
      rw [store]
      exact List.prefix_append ..
  | kept row found same store report =>
      simp only [store, List.prefix_rfl]
  | edited row found differs sameContent store report =>
      rw [store]
      exact List.prefix_rfl
  | revised row found newContent store report =>
      rw [store]
      exact List.prefix_append ..

/-- A sync leaves every version in its place. -/
theorem versions_prefix_afterSync
    (directory : Location)
    (files : Files)
    (store : Store) :
    store.versions <+: (store.afterSync directory files).versions :=
  afterSync_keeps
    (motive := fun reached => store.versions <+: reached.versions)
    (fun _ step earlier => earlier.trans (versions_prefix_of_takes step))
    directory files List.prefix_rfl

/-- Any number of syncs of an empty store leaves a whole history. -/
theorem VersionHistory.afterSyncs
    (syncs : List (Location × Files)) :
    VersionHistory (Store.empty.afterSyncs syncs) :=
  afterSyncs_keeps
    (fun _ step history => history.takes step) syncs VersionHistory.empty

/--
After any number of syncs of any directories, every template has its whole
history, and one more sync changes and removes no version that is there.
-/
theorem versionHistory_afterSyncs
    (syncs : List (Location × Files)) :
    VersionHistory (empty.afterSyncs syncs) ∧
      ∀ directory files,
        (empty.afterSyncs syncs).versions <+:
          ((empty.afterSyncs syncs).afterSync directory files).versions := by
  constructor
  · exact VersionHistory.afterSyncs syncs
  · intro directory files
    exact versions_prefix_afterSync directory files _

end Store

end ContractTemplates
