import ContractTemplates.Proofs.Template.Standing

namespace ContractTemplates

/-!
# How far a sync takes a template on

Every file that declares an id takes its template on by one version at most: it adds
the version that it makes and names the template once. So `Store.sync_advances_by_files`
bounds by the number of these files how far the version of a template goes on, how
many versions are added and how often the template is reported. Where one file alone
declares an id, all of this is one at most.
-/

namespace SourceFile

/-- An id is declared as often as there are templates that declare it. -/
theorem length_declaring
    (id : Text)
    (entries : List FileEntry) :
    (declaring id entries).length = (describedIds entries).count id := by
  rw [declaring, describedIds, List.count_eq_countP, List.countP_map,
    List.countP_eq_length_filter]
  rfl

end SourceFile

namespace Standing

/-- The number of the current version; zero if the template is not stored. -/
def version (standing : Standing) : Int :=
  (standing.row.map TemplateRow.version).getD 0

/-- How often the report names the template. -/
def reports (standing : Standing) : Nat :=
  standing.created + standing.updated

/--
How far a template can go on: it stays stored, every number that its version goes
on has a version and a report, and there are no more reports than files.
-/
structure Advances (files : Nat) (before after : Standing) : Prop where
  stored : before.row.isSome → after.row.isSome
  versions :
    ∃ added,
      after.versions = before.versions ++ added ∧
        after.version = before.version + added.length ∧
        before.reports + added.length ≤ after.reports
  reports : after.reports ≤ before.reports + files

theorem Advances.refl
    (standing : Standing) :
    Advances 0 standing standing where
  stored := id
  versions := ⟨[], by simp⟩
  reports := Nat.le_refl _

theorem Advances.trans
    {files more : Nat}
    {before middle after : Standing}
    (first : Advances files before middle)
    (second : Advances more middle after) :
    Advances (files + more) before after := by
  obtain ⟨added, versions, version, reported⟩ := first.versions
  obtain ⟨further, versions', version', reported'⟩ := second.versions
  have bound := first.reports
  have bound' := second.reports
  constructor
  case stored =>
    intro held
    exact second.stored (first.stored held)
  case versions =>
    refine ⟨added ++ further, ?_, ?_, ?_⟩
    · rw [versions', versions, List.append_assoc]
    · rw [version', version, List.length_append]
      omega
    · rw [List.length_append]
      omega
  case reports =>
    omega

/-- One file lets a template go on by one version at most. -/
theorem advances_take
    (standing : Standing)
    (template : SourceTemplate) :
    Advances 1 standing (standing.take template) := by
  cases held : standing.row with
  | none =>
      rw [take_of_absent template held]
      refine ⟨fun _ => rfl, ⟨_, rfl, ?_, ?_⟩, ?_⟩
      · simp [version, held, SourceTemplate.firstRow]
      · simp only [Standing.reports, List.length_singleton]
        omega
      · simp only [Standing.reports]
        omega
  | some row =>
      by_cases same : SyncState.renewed template row = row
      · rw [take_of_same template held same]
        exact ⟨id, ⟨[], by simp⟩, Nat.le_succ _⟩
      · rw [take_of_differs template held same]
        refine ⟨fun _ => rfl, ⟨_, rfl, ?_, ?_⟩, ?_⟩
        · cases content : SyncState.contentDiffers template row with
          | false =>
              simp [version, held, SyncState.renewed, content]
          | true =>
              simp [version, held, SyncState.renewed, content]
        · simp only [Standing.reports]
          split
          · simp only [List.length_singleton]
            omega
          · simp only [List.length_nil]
            omega
        · simp only [Standing.reports]
          omega

/-- Some files let a template go on by no more versions than they are. -/
theorem advances_foldl
    (standing : Standing)
    (templates : List SourceTemplate) :
    Advances templates.length standing (templates.foldl take standing) := by
  induction templates generalizing standing with
  | nil =>
      exact .refl standing
  | cons template rest inductionHypothesis =>
      rw [List.length_cons, Nat.add_comm]
      exact (advances_take standing template).trans
        (inductionHypothesis (standing.take template))

theorem isSome_take
    (standing : Standing)
    (template : SourceTemplate) :
    (standing.take template).row.isSome := by
  cases held : standing.row with
  | none =>
      rw [take_of_absent template held]
      rfl
  | some row =>
      exact (advances_take standing template).stored (by rw [held]; rfl)

/-- A template that is stored is not created. -/
theorem created_foldl_of_stored
    {standing : Standing}
    (stored : standing.row.isSome)
    (templates : List SourceTemplate) :
    (templates.foldl take standing).created = standing.created := by
  induction templates generalizing standing with
  | nil =>
      rfl
  | cons template rest inductionHypothesis =>
      have same : (standing.take template).created = standing.created := by
        obtain ⟨row, held⟩ := Option.isSome_iff_exists.mp stored
        simp only [take, held]
        split <;> rfl
      rw [List.foldl_cons, inductionHypothesis (isSome_take ..), same]

/-- The first of some files that declare a template creates it, unless it is stored. -/
theorem created_foldl_of_absent
    {standing : Standing}
    (absent : standing.row = none)
    (template : SourceTemplate)
    (rest : List SourceTemplate) :
    ((template :: rest).foldl take standing).created =
        standing.created + 1 ∧
      1 ≤ ((template :: rest).foldl take standing).version := by
  have first := take_of_absent template absent
  constructor
  · rw [List.foldl_cons, created_foldl_of_stored (isSome_take ..), first]
  · obtain ⟨added, _, version, _⟩ :=
      (advances_foldl (standing.take template) rest).versions
    have begun : (standing.take template).version = 1 := by
      rw [first]
      rfl
    rw [List.foldl_cons, version, begun]
    omega

/-- A template is created by some files exactly if there are any and it is not stored. -/
theorem created_foldl_ne_iff
    (standing : Standing)
    (templates : List SourceTemplate) :
    (templates.foldl take standing).created ≠ standing.created ↔
      standing.row = none ∧ templates ≠ [] := by
  cases held : standing.row with
  | some row =>
      have stored : standing.row.isSome := by
        rw [held]
        rfl
      simp [created_foldl_of_stored stored]
  | none =>
      cases templates with
      | nil =>
          simp
      | cons template rest =>
          have once := (created_foldl_of_absent held template rest).1
          simp only [once]
          simp

end Standing

namespace SourceFile

/-- Two files that declare the same id. -/
def rivals : Files := [
  (["a.typ".toList],
    .file (Text.utf8 "/*---\nid: a\ntitle: A\n---*/\nOne".toList)),
  (["b.typ".toList],
    .file (Text.utf8 "/*---\nid: a\ntitle: A\n---*/\nTwo".toList))]

theorem all_rivals : all [] rivals = rivals.map Prod.snd := by
  unfold all
  dsimp only
  rw [List.mergeSort_of_pairwise (by decide +kernel)]
  decide +kernel

end SourceFile

namespace Store

/-- The report of a sync names a template as created if it was not stored and is declared. -/
theorem mem_created_iff
    {store next : Store}
    {directory : Location}
    {files : Files}
    {report : SyncReport}
    (success : store.sync directory files = .ok (report, next))
    (id : Text) :
    id ∈ report.created ↔
      store.find? id = none ∧
        SourceFile.declaring id (SourceFile.all directory files) ≠ [] := by
  have counted :=
    Standing.created_foldl_ne_iff (Standing.of store ⟨[], []⟩ id)
      (SourceFile.declaring id (SourceFile.all directory files))
  rw [← standing_of_sync success id] at counted
  rw [← List.count_pos_iff, Nat.pos_iff_ne_zero]
  exact counted

/--
A sync takes a template on by one version at most for each file that declares its
id. A stored template goes on by exactly the versions that are added, a template
that the sync creates has exactly these, and the report names it at least once for
each of them and at most once for each of the files.
-/
theorem sync_advances_by_files
    {store next : Store}
    {directory : Location}
    {files : Files}
    {report : SyncReport}
    (success : store.sync directory files = .ok (report, next))
    (id : Text) :
    ∃ added,
      next.versionsOf id = store.versionsOf id ++ added ∧
        added.length ≤ (report.created ++ report.updated).count id ∧
        (report.created ++ report.updated).count id ≤
          (SourceFile.describedIds (SourceFile.all directory files)).count id ∧
        (∀ row,
          store.find? id = some row →
          ∃ later,
            next.find? id = some later ∧
              later.version = row.version + added.length) ∧
        (id ∈ report.created →
          store.find? id = none ∧
            ∃ first,
              next.find? id = some first ∧
                first.version = added.length ∧
                1 ≤ first.version) := by
  have ended := standing_of_sync success id
  have advances :=
    Standing.advances_foldl (Standing.of store ⟨[], []⟩ id)
      (SourceFile.declaring id (SourceFile.all directory files))
  rw [← ended, SourceFile.length_declaring] at advances
  obtain ⟨added, versions, version, reported⟩ := advances.versions
  have bound := advances.reports
  refine ⟨added, versions, ?_, ?_, ?_, ?_⟩
  · simpa [Standing.reports, Standing.of] using reported
  · simpa [Standing.reports, Standing.of] using bound
  · intro row held
    have stored : (next.find? id).isSome :=
      advances.stored (Option.isSome_of_eq_some held)
    obtain ⟨later, found⟩ := Option.isSome_iff_exists.mp stored
    refine ⟨later, found, ?_⟩
    simpa [Standing.version, Standing.of, held, found] using version
  · intro created
    obtain ⟨absent, declared⟩ := (mem_created_iff success id).mp created
    obtain ⟨template, rest, shape⟩ := List.exists_cons_of_ne_nil declared
    have begun : 1 ≤ (Standing.of next report id).version := by
      rw [ended, shape]
      exact (Standing.created_foldl_of_absent absent template rest).2
    refine ⟨absent, ?_⟩
    cases found : next.find? id with
    | none =>
        simp [Standing.version, Standing.of, found] at begun
    | some first =>
        refine ⟨first, rfl, ?_, ?_⟩
        · simpa [Standing.version, Standing.of, absent, found] using version
        · simpa [Standing.version, Standing.of, found] using begun

/-- Both files take a stored template on. -/
theorem sync_advances_by_files_ofRivals :
    ∃ report next,
      withOtherRow.sync [] SourceFile.rivals = .ok (report, next) ∧
        (SourceFile.describedIds
          (SourceFile.all [] SourceFile.rivals)).count "a".toList = 2 ∧
        ∃ added later,
          next.versionsOf "a".toList = added ∧
            added.length ≤ 2 ∧
            next.find? "a".toList = some later ∧
            later.version = 7 + added.length := by
  have goesThrough :
      (withOtherRow.sync [] SourceFile.rivals).toOption.isSome = true := by
    unfold sync
    rw [SourceFile.all_rivals]
    decide +kernel
  have twice :
      (SourceFile.describedIds
        (SourceFile.all [] SourceFile.rivals)).count "a".toList = 2 := by
    rw [SourceFile.all_rivals]
    decide +kernel
  obtain ⟨⟨report, next⟩, success⟩ := Option.isSome_iff_exists.mp goesThrough
  have success := eq_ok_of_toOption success
  obtain ⟨added, versions, named, bound, stored, _⟩ :=
    sync_advances_by_files success "a".toList
  obtain ⟨later, found, version⟩ := stored _ rfl
  refine ⟨report, next, success, twice, added, later, versions, ?_, found,
    version⟩
  omega

/--
Two files that declare one id create its template in the second version, and the next
sync takes it on by two versions more.
-/
theorem rivals_move_twice :
    ∃ first second,
      empty.sync [] SourceFile.rivals =
          .ok (⟨["a".toList], ["a".toList]⟩, first) ∧
        (first.find? "a".toList).map TemplateRow.version = some 2 ∧
        (first.versionsOf "a".toList).length = 2 ∧
        first.sync [] SourceFile.rivals =
          .ok (⟨[], ["a".toList, "a".toList]⟩, second) ∧
        (second.find? "a".toList).map TemplateRow.version = some 4 ∧
        (second.versionsOf "a".toList).length = 4 := by
  have shown :
      ((empty.sync [] SourceFile.rivals).toOption.bind fun first =>
        (first.2.sync [] SourceFile.rivals).toOption.map fun second =>
          (first.1, (first.2.find? "a".toList).map TemplateRow.version,
            (first.2.versionsOf "a".toList).length, second.1,
            (second.2.find? "a".toList).map TemplateRow.version,
            (second.2.versionsOf "a".toList).length)) =
        some (⟨["a".toList], ["a".toList]⟩, some 2, 2,
          ⟨[], ["a".toList, "a".toList]⟩, some 4, 4) := by
    unfold sync
    rw [SourceFile.all_rivals]
    decide +kernel
  obtain ⟨⟨report, first⟩, began, shown⟩ := Option.bind_eq_some_iff.mp shown
  obtain ⟨⟨again, second⟩, went, shown⟩ := Option.map_eq_some_iff.mp shown
  simp only [Prod.mk.injEq] at shown
  obtain ⟨rfl, version, versions, rfl, version', versions'⟩ := shown
  exact ⟨first, second, eq_ok_of_toOption began, version, versions,
    eq_ok_of_toOption went, version', versions'⟩

end Store

end ContractTemplates
