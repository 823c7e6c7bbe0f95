import ContractTemplates.Files

namespace ContractTemplates.Files

/-!
# The way to a location

Whether a file can be written or read, and whether a directory can be made, depends on
what is at the locations on the way there and at the location itself. Two file trees
that agree on these refuse the same operations, and the operations leave them in
agreement. Making a directory puts directories on the way where nothing was and changes
nothing else.
-/

/-- Whether two file trees have the same on the way to a location, the location included. -/
def AgreeOnWay (location : Location) (first second : Files) : Prop :=
  ∀ place, place <+: location → first.find? place = second.find? place

theorem mem_wayTo
    {place location : Location} :
    place ∈ wayTo location ↔ place <+: location := by
  unfold wayTo
  rw [List.mem_map, List.prefix_iff_eq_take]
  constructor
  · rintro ⟨length, _, rfl⟩
    rw [List.length_take, ← List.take_eq_take_min]
  · intro same
    have within : place.length ≤ location.length := by
      rw [same]
      exact List.length_take_le' ..
    exact ⟨place.length, List.mem_range.mpr (Nat.lt_succ_of_le within), same.symm⟩

namespace AgreeOnWay

variable
  {location : Location}
  {first second third : Files}

theorem refl
    (location : Location)
    (files : Files) :
    AgreeOnWay location files files :=
  fun _ _ => rfl

theorem symm
    (agree : AgreeOnWay location first second) :
    AgreeOnWay location second first :=
  fun place before => (agree place before).symm

theorem trans
    (agree : AgreeOnWay location first second)
    (further : AgreeOnWay location second third) :
    AgreeOnWay location first third :=
  fun place before => (agree place before).trans (further place before)

theorem dropLast
    (agree : AgreeOnWay location first second) :
    AgreeOnWay location.dropLast first second :=
  fun place before => agree place (before.trans (List.dropLast_prefix location))

end AgreeOnWay

theorem findSome?_congr
    {items : List α}
    {first second : α → Option β}
    (alike : ∀ item ∈ items, first item = second item) :
    items.findSome? first = items.findSome? second := by
  induction items with
  | nil =>
      rfl
  | cons item rest inductionHypothesis =>
      have others :=
        inductionHypothesis fun other member =>
          alike other (List.mem_cons_of_mem _ member)
      rw [List.findSome?_cons, List.findSome?_cons,
        alike item List.mem_cons_self, others]

/-- Trees that agree on the way to a location have the same fault there. -/
theorem AgreeOnWay.parentFault?
    {location : Location}
    {first second : Files}
    (agree : AgreeOnWay location.dropLast first second) :
    first.parentFault? location = second.parentFault? location := by
  apply findSome?_congr
  intro place member
  rw [agree place (mem_wayTo.mp member)]

/-- What is there after a directory was put where nothing was. -/
theorem find?_ensure
    (files : Files)
    (location place : Location) :
    (files.ensure location).find? place =
      (files.find? place).or
        (if place = location then some .directory else none) := by
  unfold ensure
  split
  next entry occupied =>
    by_cases same : place = location
    · rw [same, occupied]
      rfl
    · simp [same]
  next free =>
    by_cases root : place = []
    · subst root
      rfl
    · rw [find?_put _ _ _ _ root]
      by_cases same : place = location
      · simp [same, free]
      · simp [same]

theorem find?_foldl_ensure
    (places : List Location)
    (files : Files)
    (place : Location) :
    (places.foldl ensure files).find? place =
      (files.find? place).or
        (if place ∈ places then some .directory else none) := by
  induction places generalizing files with
  | nil =>
      simp
  | cons head rest inductionHypothesis =>
      rw [List.foldl_cons, inductionHypothesis, find?_ensure, Option.or_assoc]
      by_cases same : place = head
      · simp [same]
      · simp [same]

section Operations

variable
  {location place : Location}
  {first second files changed : Files}
  {content : Bytes}
  {fault : FileFault}

/-- What is there after a directory was made: more directories, but only on the way. -/
theorem find?_makeDirectories
    (made : files.makeDirectories location = .ok changed) :
    changed.find? place =
      (files.find? place).or
        (if files.find? location = none ∧ place <+: location then
          some .directory
        else
          none) := by
  unfold makeDirectories at made
  cases there : files.find? location with
  | none =>
      rw [there] at made
      have built : changed = (wayTo location).foldl ensure files := by
        cases fault : files.parentFault? location with
        | none =>
            rw [fault] at made
            exact (Except.ok.inj made).symm
        | some kind =>
            rw [fault] at made
            cases kind <;>
              first
              | exact (Except.ok.inj made).symm
              | cases made
      rw [built, find?_foldl_ensure]
      simp [mem_wayTo]
  | some entry =>
      cases entry with
      | directory =>
          rw [there] at made
          cases made
          simp
      | file content =>
          rw [there] at made
          cases made

/-- Where a directory was made, a directory is. -/
theorem find?_makeDirectories_self
    (made : files.makeDirectories location = .ok changed) :
    changed.find? location = some .directory := by
  rw [find?_makeDirectories made]
  cases there : files.find? location with
  | none =>
      simp
  | some entry =>
      cases entry with
      | directory =>
          rfl
      | file content =>
          unfold makeDirectories at made
          rw [there] at made
          cases made

/-- Making a directory changes nothing off the way. -/
theorem find?_makeDirectories_off
    (made : files.makeDirectories location = .ok changed)
    (off : ¬ place <+: location) :
    changed.find? place = files.find? place := by
  rw [find?_makeDirectories made]
  simp [off]

/-- Making a directory neither adds, changes nor removes a file. -/
theorem file_makeDirectories_iff
    (made : files.makeDirectories location = .ok changed) :
    changed.find? place = some (.file content) ↔
      files.find? place = some (.file content) := by
  rw [find?_makeDirectories made]
  cases files.find? place with
  | none =>
      rw [Option.none_or]
      split <;>
        simp
  | some entry =>
      rfl

/-- Trees that agree on the way refuse a directory for the same reason. -/
theorem AgreeOnWay.makeDirectories_error
    (agree : AgreeOnWay location first second)
    (refused : first.makeDirectories location = .error fault) :
    second.makeDirectories location = .error fault := by
  unfold makeDirectories at refused ⊢
  rw [← agree location List.prefix_rfl, ← agree.dropLast.parentFault?]
  split
  next there =>
    rw [there] at refused
    cases refused
  next there =>
    rw [there] at refused
    cases refused
    rfl
  next there =>
    rw [there] at refused
    split
    next inTheWay =>
      rw [inTheWay] at refused
      cases refused
      rfl
    next otherwise =>
      dsimp only at refused
      split at refused
      · next inTheWay =>
          exact absurd inTheWay otherwise
      · cases refused

/-- Trees that agree on the way still do when a directory was made in both. -/
theorem AgreeOnWay.makeDirectories_ok
    (agree : AgreeOnWay location first second)
    (made : first.makeDirectories location = .ok changed) :
    ∃ other,
      second.makeDirectories location = .ok other ∧
        AgreeOnWay location changed other := by
  cases verdict : second.makeDirectories location with
  | error fault =>
      rw [agree.symm.makeDirectories_error verdict] at made
      cases made
  | ok other =>
      refine ⟨other, rfl, ?_⟩
      intro place before
      rw [find?_makeDirectories made, find?_makeDirectories verdict,
        agree place before, agree location List.prefix_rfl]

/-- What is there after a file was written. -/
theorem find?_write
    (wrote : files.write location content = .ok changed) :
    changed.find? place =
      if place = location then
        some (.file content)
      else
        files.find? place := by
  unfold write at wrote
  split at wrote
  · cases wrote
  · cases wrote
  next unfaulted notDirectory =>
    cases wrote
    by_cases root : place = []
    · subst root
      have elsewhere : [] ≠ location := by
        rintro rfl
        exact notDirectory rfl
      rw [if_neg elsewhere]
      rfl
    · exact find?_put _ _ _ _ root

/-- Trees with the same at a location and on the way there refuse a file alike. -/
theorem AgreeOnWay.write_error
    (agree : AgreeOnWay location.dropLast first second)
    (same : first.find? location = second.find? location)
    (refused : first.write location content = .error fault) :
    second.write location content = .error fault := by
  unfold write at refused ⊢
  rw [agree.parentFault?, same] at refused
  cases inTheWay : second.parentFault? location with
  | some kind =>
      rw [inTheWay] at refused
      exact refused
  | none =>
      rw [inTheWay] at refused
      cases there : second.find? location with
      | none =>
          rw [there] at refused
          cases refused
      | some entry =>
          rw [there] at refused
          cases entry with
          | directory =>
              exact refused
          | file held =>
              cases refused

/-- Trees with the same at a location and on the way there take a file alike. -/
theorem AgreeOnWay.write_ok
    (agree : AgreeOnWay location.dropLast first second)
    (same : first.find? location = second.find? location)
    (wrote : first.write location content = .ok changed) :
    ∃ other, second.write location content = .ok other := by
  cases verdict : second.write location content with
  | ok other =>
      exact ⟨other, rfl⟩
  | error fault =>
      rw [agree.symm.write_error same.symm verdict] at wrote
      cases wrote

/-- Trees with the same at a location and on the way there read the same. -/
theorem AgreeOnWay.read
    (agree : AgreeOnWay location.dropLast first second)
    (same : first.find? location = second.find? location) :
    first.read location = second.read location := by
  unfold Files.read
  rw [agree.parentFault?, same]

/-- What is there after a removal: a file is gone, a directory stays. -/
theorem find?_remove
    (removed : files.remove location = .ok changed) :
    changed.find? place =
      if place = location then none else files.find? place := by
  unfold remove at removed
  split at removed
  · cases removed
  next content there =>
    cases removed
    by_cases root : place = []
    · subst root
      have elsewhere : [] ≠ location := by
        rintro rfl
        cases there
      rw [if_neg elsewhere]
      rfl
    · exact find?_erase _ _ _ root
  next free =>
    cases removed
    by_cases same : place = location
    · rw [if_pos same, same, free]
    · rw [if_neg same]

end Operations

/-!
### Since a directory was made
-/

/--
Whether the way to a directory is as it was once the directory had been made in an
initial tree.
-/
def MadeFrom (location : Location) (initial files : Files) : Prop :=
  ∃ made,
    initial.makeDirectories location = .ok made ∧
      AgreeOnWay location files made

/--
Whether the way to a directory is as it was in an initial tree, or since the directory
was made there.
-/
def WayFrom (location : Location) (initial files : Files) : Prop :=
  AgreeOnWay location files initial ∨ MadeFrom location initial files

section WayFrom

variable
  {location : Location}
  {initial files first second changed : Files}
  {fault : FileFault}

/-- A directory that was made is not made again. -/
theorem MadeFrom.makeDirectories
    (standing : MadeFrom location initial files) :
    files.makeDirectories location = .ok files := by
  obtain ⟨made, wasMade, agree⟩ := standing
  unfold Files.makeDirectories
  rw [agree location List.prefix_rfl, find?_makeDirectories_self wasMade]

theorem MadeFrom.trans
    (standing : MadeFrom location initial files)
    (agree : AgreeOnWay location files changed) :
    MadeFrom location initial changed := by
  obtain ⟨made, wasMade, before⟩ := standing
  exact ⟨made, wasMade, agree.symm.trans before⟩

theorem MadeFrom.agree
    (first : MadeFrom location initial files)
    (second : MadeFrom location initial changed) :
    AgreeOnWay location files changed := by
  obtain ⟨made, wasMade, agree⟩ := first
  obtain ⟨again, wasMadeAgain, agreeAgain⟩ := second
  cases Except.ok.inj (wasMade.symm.trans wasMadeAgain)
  exact agree.trans agreeAgain.symm

theorem WayFrom.trans
    (standing : WayFrom location initial files)
    (agree : AgreeOnWay location files changed) :
    WayFrom location initial changed :=
  standing.imp agree.symm.trans fun made => made.trans agree

/-- Whenever the directory is made, the way is as if it had been made at the start. -/
theorem WayFrom.madeFrom
    (standing : WayFrom location initial files)
    (made : files.makeDirectories location = .ok changed) :
    MadeFrom location initial changed := by
  rcases standing with agree | standing
  · exact agree.makeDirectories_ok made
  · rw [standing.makeDirectories] at made
    cases made
    exact standing

/-- The directory is refused whenever it was refused at the start, and for the same reason. -/
theorem WayFrom.makeDirectories_error_iff
    (standing : WayFrom location initial files) :
    files.makeDirectories location = .error fault ↔
      initial.makeDirectories location = .error fault := by
  rcases standing with agree | standing
  · exact ⟨agree.makeDirectories_error, agree.symm.makeDirectories_error⟩
  · rw [standing.makeDirectories]
    obtain ⟨made, wasMade, _⟩ := standing
    rw [wasMade]
    exact ⟨nofun, nofun⟩

end WayFrom

end ContractTemplates.Files
