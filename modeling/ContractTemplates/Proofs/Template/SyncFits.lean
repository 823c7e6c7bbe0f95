import ContractTemplates.Proofs.Template.SyncStep

namespace ContractTemplates

/-!
# Stored rows fit

A row that cannot be stored may be in hand for a while, but no sync goes through with it:
all that is in hand is written at the end. `SyncState.FitsOrInHand` is what each step
keeps, and `Store.fits_afterSyncs` is what is left of it in the store: a row that syncs
have stored has a price of 64 bits, and a title and a description that are texts.
-/

namespace Store

/-- Whether every row that is found can be stored. -/
def Fits (store : Store) : Prop :=
  ∀ id row, store.find? id = some row → row.fits = true

/-- Under distinct ids every row is found. -/
theorem Fits.of_mem
    {store : Store}
    {row : TemplateRow}
    (fits : store.Fits)
    (distinct : (store.templates.map TemplateRow.id).Nodup)
    (held : row ∈ store.templates) :
    row.fits = true :=
  fits row.id row (find?_of_mem distinct held)

end Store

namespace SyncState

/-- Whether every row that is found can be stored, or is still to be written. -/
def FitsOrInHand (state : SyncState) : Prop :=
  ∀ id row, state.store.find? id = some row →
    row.fits = true ∨ id ∈ state.changed ++ state.pending

namespace FitsOrInHand

variable
  {state next : SyncState}

theorem start
    {store : Store}
    (fits : store.Fits) :
    (SyncState.start store).FitsOrInHand :=
  fun id row found => .inl (fits id row found)

/-- What has been written can be stored. -/
theorem of_write
    (kept : state.FitsOrInHand)
    {written : SyncState}
    (success : state.write = .ok written) :
    state.store.Fits := by
  unfold SyncState.write at success
  split at success
  · next free =>
      intro id row found
      rcases kept id row found with fits | awaited
      · exact fits
      · exact writeFault?_eq_none_iff.mp free id (mem_unwritten_iff.mpr awaited) row found
  · cases success

theorem lookUp
    (kept : state.FitsOrInHand)
    {id : Text}
    {found : Option TemplateRow}
    {looked : SyncState}
    (success : state.lookUp id = .ok (found, looked)) :
    looked.FitsOrInHand := by
  obtain ⟨_, sameStore, _, ⟨sameChanged, samePending⟩ | ⟨written, writing⟩⟩ :=
    lookUp_eq_ok success
  · unfold FitsOrInHand
    rw [sameStore, sameChanged, samePending]
    exact kept
  · intro other row stored
    rw [sameStore] at stored
    exact .inl (kept.of_write writing other row stored)

/-- Taking a template over leaves its row in hand, if there is one to be written. -/
theorem take
    (kept : state.FitsOrInHand)
    {template : SourceTemplate}
    (success : state.take template = .ok next) :
    next.FitsOrInHand := by
  have others {id : Text} (other : template.manifest.id ≠ id) :
      next.store.find? id = state.store.find? id :=
    (takes_of_take success).find?_other other
  obtain ⟨looked, looking, step⟩ := take_eq_ok success
  obtain ⟨_, sameStore, _, _⟩ := lookUp_eq_ok looking
  have stillKept := kept.lookUp looking
  unfold FitsOrInHand at stillKept
  rw [sameStore] at stillKept
  intro id row found
  rcases step with ⟨_, rfl⟩ | ⟨held, heldFound, rfl⟩
  · by_cases own : template.manifest.id = id
    · exact .inr (by simp [create, own])
    · rw [others own] at found
      refine (stillKept id row found).imp_right fun awaited => ?_
      simp only [create, List.mem_append, List.mem_cons] at awaited ⊢
      exact awaited.imp_right .inr
  · by_cases same : renewed template held = held
    · rw [change_of_eq same, sameStore] at found
      rw [change_of_eq same]
      exact stillKept id row found
    · obtain ⟨_, sameId⟩ := Store.mem_of_find?_eq_some heldFound
      by_cases own : template.manifest.id = id
      · rw [change_of_ne same]
        exact .inr (by simp [sameId, own])
      · rw [others own] at found
        refine (stillKept id row found).imp_right fun awaited => ?_
        rw [change_of_ne same]
        exact List.mem_cons_of_mem _ awaited

theorem takeFiles
    (kept : state.FitsOrInHand)
    {entries : List FileEntry}
    (success : state.takeFiles entries = .ok next) :
    next.FitsOrInHand := by
  induction entries generalizing state with
  | nil =>
      cases success
      exact kept
  | cons entry rest inductionHypothesis =>
      obtain ⟨middle, first, later⟩ := takeFiles_cons_eq_ok.mp success
      rcases takeFile_eq_ok first with ⟨_, rfl⟩ | ⟨template, _, taking⟩
      · exact inductionHypothesis kept later
      · exact inductionHypothesis (kept.take taking) later

end FitsOrInHand

end SyncState

namespace Store

/-- A sync leaves rows that can be stored, whether or not it goes through. -/
theorem Fits.afterSync
    {store : Store}
    (fits : store.Fits)
    (directory : Location)
    (files : Files) :
    (store.afterSync directory files).Fits := by
  unfold Store.afterSync
  split
  · next report reached success =>
      obtain ⟨state, written, running, writing, sameStore, _⟩ := syncEntries_eq_ok success
      rw [← sameStore]
      exact ((SyncState.FitsOrInHand.start fits).takeFiles running).of_write writing
  · exact fits

/-- After any syncs of an empty store every row can be stored. -/
theorem fits_afterSyncs
    (syncs : List (Location × Files)) :
    (empty.afterSyncs syncs).Fits := by
  have kept {store : Store} (fits : store.Fits) : (store.afterSyncs syncs).Fits := by
    induction syncs generalizing store with
    | nil =>
        exact fits
    | cons sync rest inductionHypothesis =>
        exact inductionHypothesis (fits.afterSync sync.1 sync.2)
  exact kept nofun

end Store

end ContractTemplates
