import ContractTemplates.Proofs.Number.Spelling
import ContractTemplates.Proofs.Template.VersionHistory
import ContractTemplates.Proofs.Text.Prefix

namespace ContractTemplates

/-!
# The ids of versions

The id of a version is the id of its template and the number of the version with a mark between
them. The id of a template may itself have the mark, and digits behind it, so that the first mark
decides nothing. A numeral never has it: the last mark is the one that was put in, and a text
with it can be parted in one way only.

Rows made for templates therefore have distinct ids as soon as no template has two versions of
one number, which holds in every store that was filled by syncs. `Store.version_ids_distinct`
says both.
-/

namespace Text

theorem mem_ofInt
    {c : Char}
    {n : Int}
    (member : c ∈ ofInt n) :
    c.isDigit = true ∨ c = '-' := by
  unfold ofInt at member
  split at member
  · rcases List.mem_cons.mp member with minus | digit
    · exact .inr minus
    · exact .inl (isDigit_toDigits n.natAbs c digit)
  · exact .inl (isDigit_toDigits n.natAbs c member)

/-- The numerals that begin with a minus are those of the integers below zero. -/
theorem head?_ofInt_eq_minus_iff
    (n : Int) :
    (ofInt n).head? = some '-' ↔ n < 0 := by
  unfold ofInt
  by_cases below : n < 0
  · simp [below]
  · rw [if_neg below]
    refine iff_of_false ?_ below
    intro begins
    have digit := isDigit_toDigits n.natAbs '-' (List.mem_of_head? begins)
    exact absurd digit (by decide)

/-- An integer is determined by its numeral. -/
theorem ofInt_injective :
    Function.Injective ofInt := by
  intro m n same
  have sign : m < 0 ↔ n < 0 := by
    rw [← head?_ofInt_eq_minus_iff, same, head?_ofInt_eq_minus_iff]
  have digits : Nat.toDigits 10 m.natAbs = Nat.toDigits 10 n.natAbs := by
    unfold ofInt at same
    by_cases below : m < 0
    · rw [if_pos below, if_pos (sign.mp below)] at same
      exact (List.cons.inj same).2
    · rw [if_neg below, if_neg (mt sign.mpr below)] at same
      exact same
  have magnitude : m.natAbs = n.natAbs :=
    calc
      m.natAbs = Nat.ofDigitChars 10 (Nat.toDigits 10 m.natAbs) 0 :=
        Nat.ofDigitChars_ten_toDigits.symm
      _ = Nat.ofDigitChars 10 (Nat.toDigits 10 n.natAbs) 0 := by
        rw [digits]
      _ = n.natAbs :=
        Nat.ofDigitChars_ten_toDigits
  omega

end Text

namespace VersionRow

/-- The template that a version belongs to, and the number that it has there. -/
def key (version : VersionRow) : Text × Int :=
  (version.templateId, version.version)

/-- Whether a version was made from a row of its template. -/
def IsRecorded (version : VersionRow) : Prop :=
  ∃ row changelog, version = .ofTemplate row changelog

theorem mark_not_mem_ofInt
    (number : Int) :
    'v' ∉ Text.ofInt number := by
  intro member
  rcases Text.mem_ofInt member with digit | minus
  · exact absurd digit (by decide)
  · exact absurd minus (by decide)

/-- The id of a version determines its template and its number. -/
theorem idOf_eq_idOf_iff
    {templateId other : Text}
    {version number : Int} :
    idOf templateId version = idOf other number ↔
      templateId = other ∧ version = number := by
  constructor
  · intro same
    have parted :
        (templateId ++ ['_']) ++ 'v' :: Text.ofInt version =
          (other ++ ['_']) ++ 'v' :: Text.ofInt number := by
      simpa [idOf] using same
    obtain ⟨sameTemplate, sameNumber⟩ :=
      Text.eq_of_append_cons_eq (mark_not_mem_ofInt version)
        (mark_not_mem_ofInt number) parted
    exact ⟨List.append_cancel_right sameTemplate,
      Text.ofInt_injective sameNumber⟩
  · rintro ⟨rfl, rfl⟩
    rfl

/-- The id of a version that was made from a row says which version it is. -/
theorem IsRecorded.id_eq
    {version : VersionRow}
    (recorded : version.IsRecorded) :
    version.id = idOf version.key.1 version.key.2 := by
  obtain ⟨row, changelog, rfl⟩ := recorded
  rfl

/-- Among versions that were made from rows, ids are as distinct as keys. -/
theorem nodup_ids_iff
    {versions : List VersionRow}
    (recorded : ∀ version ∈ versions, version.IsRecorded) :
    (versions.map VersionRow.id).Nodup ↔
      (versions.map VersionRow.key).Nodup := by
  have injective : Function.Injective fun key : Text × Int => idOf key.1 key.2 :=
    fun _ _ same => Prod.ext_iff.mpr (idOf_eq_idOf_iff.mp same)
  have ids :
      versions.map VersionRow.id =
        (versions.map VersionRow.key).map fun key => idOf key.1 key.2 := by
    rw [List.map_map]
    exact List.map_congr_left fun version member => (recorded version member).id_eq
  rw [ids]
  exact List.nodup_map_iff injective

end VersionRow

namespace Store

/-- A key is there as often as its number is among the versions of its template. -/
theorem count_key
    (store : Store)
    (id : Text)
    (number : Int) :
    (store.versions.map VersionRow.key).count (id, number) =
      ((store.versionsOf id).map VersionRow.version).count number := by
  unfold versionsOf List.count
  rw [List.countP_map, List.countP_map, List.countP_filter]
  apply List.countP_congr
  intro version _
  simp [VersionRow.key, and_comm]

theorem nodup_versionNumbers
    (current : Int) :
    (versionNumbers current).Nodup := by
  unfold versionNumbers
  refine List.Nodup.map ?_ List.nodup_range
  intro past other same
  simpa using same

/-- In a whole history no template has two versions of one number. -/
theorem VersionHistory.nodup_keys
    {store : Store}
    (history : VersionHistory store) :
    (store.versions.map VersionRow.key).Nodup := by
  rw [List.nodup_iff_count_le_one]
  rintro ⟨id, number⟩
  rw [count_key]
  cases found : store.find? id with
  | none =>
      rw [history.versionsOf_of_find?_eq_none found]
      exact Nat.zero_le 1
  | some row =>
      obtain ⟨stored, rfl⟩ := mem_of_find?_eq_some found
      rw [history.numbered row stored]
      exact List.nodup_iff_count_le_one.mp (nodup_versionNumbers _) number

/-- Taking over one template adds no version but one that is made from its row. -/
theorem recorded_of_takes
    {template : SourceTemplate}
    {state next : SyncState}
    (step : SyncState.Takes template state next)
    (recorded : ∀ version ∈ state.store.versions, version.IsRecorded) :
    ∀ version ∈ next.store.versions, version.IsRecorded := by
  cases step with
  | created absent store report =>
      rw [store]
      exact List.forall_mem_append.mpr
        ⟨recorded, List.forall_mem_singleton.mpr ⟨_, _, rfl⟩⟩
  | kept row found same store report =>
      rw [store]
      exact recorded
  | edited row found differs sameContent store report =>
      rw [store]
      exact recorded
  | revised row found newContent store report =>
      rw [store]
      exact List.forall_mem_append.mpr
        ⟨recorded, List.forall_mem_singleton.mpr ⟨_, _, rfl⟩⟩

/-- After any number of syncs of an empty store every version was made from a row. -/
theorem recorded_afterSyncs
    (syncs : List (Location × Files)) :
    ∀ version ∈ (empty.afterSyncs syncs).versions, version.IsRecorded :=
  afterSyncs_keeps
    (motive := fun reached => ∀ version ∈ reached.versions, version.IsRecorded)
    (fun _ step recorded => recorded_of_takes step recorded)
    syncs (fun _ member => absurd member List.not_mem_nil)

/--
The ids of two versions are equal only if their templates and their numbers are, whatever the
template ids look like. The ids of versions made from rows are therefore distinct exactly if no
template has two versions of one number, as is so in every store that was filled by syncs.
-/
theorem version_ids_distinct :
    (∀ (templateId other : Text) (version number : Int),
      VersionRow.idOf templateId version = VersionRow.idOf other number ↔
        templateId = other ∧ version = number) ∧
    (∀ store : Store,
      (∀ version ∈ store.versions, version.IsRecorded) →
        ((store.versions.map VersionRow.id).Nodup ↔
          (store.versions.map VersionRow.key).Nodup)) ∧
    ∀ syncs : List (Location × Files),
      (∀ version ∈ (empty.afterSyncs syncs).versions, version.IsRecorded) ∧
        ((empty.afterSyncs syncs).versions.map VersionRow.id).Nodup := by
  refine ⟨?_, ?_, ?_⟩
  · intro templateId other version number
    exact VersionRow.idOf_eq_idOf_iff
  · intro store recorded
    exact VersionRow.nodup_ids_iff recorded
  · intro syncs
    have recorded := recorded_afterSyncs syncs
    have keys := (VersionHistory.afterSyncs syncs).nodup_keys
    exact ⟨recorded, (VersionRow.nodup_ids_iff recorded).mpr keys⟩

/-- Templates with their current versions; two of them have ids as versions have. -/
def markedTemplates : Store :=
  let rows : List TemplateRow :=
    [("a", 11), ("a_v1", 1), ("a_v1_v1", -1)].map fun (id, version) => {
      id := id.toList
      title := "A".toList
      description := none
      price := 0
      source := []
      schema := "[]".toList
      version
      isPublished := false }
  ⟨rows, rows.map (.ofTemplate · VersionRow.initialLog)⟩

/-- Their versions have distinct ids, though the id of one version is that of a template. -/
theorem version_ids_distinct_ofMarkedTemplates :
    (∀ version ∈ markedTemplates.versions, version.IsRecorded) ∧
      markedTemplates.versions.map VersionRow.id =
        ["a_v11".toList, "a_v1_v1".toList, "a_v1_v1_v-1".toList] ∧
      (markedTemplates.versions.map VersionRow.id).Nodup := by
  have recorded : ∀ version ∈ markedTemplates.versions, version.IsRecorded := by
    intro version member
    obtain ⟨row, _, rfl⟩ := List.mem_map.mp member
    exact ⟨row, VersionRow.initialLog, rfl⟩
  have keys : (markedTemplates.versions.map VersionRow.key).Nodup := by
    decide
  have ids := (version_ids_distinct.2.1 markedTemplates recorded).mpr keys
  exact ⟨recorded, by decide, ids⟩

end Store

end ContractTemplates
