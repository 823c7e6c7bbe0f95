import ContractTemplates.Proofs.Compile.JobView
import Mathlib.Data.List.Induction
import Mathlib.Logic.Function.Basic

namespace ContractTemplates

/-!
# Jobs side by side

Any number of jobs work in one directory, each with a name of its own, and take their
steps in any order. Each command keeps to the two files of its job and does with them
what depends on them alone. Then no job can tell whether the others are there, and once
all have ended the files are those that were there before: `Crew.run_as_alone`.
-/

/--
What surrounds a job: the file system, the clock and the command. It answers each step of
the job by an event, which may depend on the two files of the job, on the stage of the job
and on what went before.
-/
structure Surroundings (Memory : Type) where
  initial : Memory
  respond :
    Memory → JobStage → Option FileEntry → Option FileEntry → JobEvent × Memory

/-- How far a job and its surroundings have come. -/
structure JobProgress (Memory : Type) where
  stage : JobStage
  memory : Memory
  deriving DecidableEq, Repr

/-- Jobs with their surroundings. -/
structure Crew (ι Memory : Type) where
  job : ι → Job
  around : ι → Surroundings Memory

namespace Crew

/-- The files, and how far each job has come. -/
abbrev State (ι Memory : Type) :=
  Files × (ι → JobProgress Memory)

variable {ι Memory : Type}

/-- The jobs before they begin. -/
def start (crew : Crew ι Memory) (files : Files) : State ι Memory :=
  (files, fun i => ⟨.preparing, (crew.around i).initial⟩)

/-- What happens to a job next, and what its surroundings remember. -/
def answer (crew : Crew ι Memory) (state : State ι Memory) (i : ι) :
    JobEvent × Memory :=
  (crew.around i).respond (state.2 i).memory (state.2 i).stage
    (state.1.find? (crew.job i).input) (state.1.find? (crew.job i).output)

/-- The step of one job. -/
def step [DecidableEq ι] (crew : Crew ι Memory) (state : State ι Memory) (i : ι) :
    State ι Memory :=
  let (event, memory) := crew.answer state i
  let (files, stage) := (crew.job i).step (state.1, (state.2 i).stage) event
  (files, Function.update state.2 i ⟨stage, memory⟩)

/-- What the jobs do when they take their steps in the order of a schedule. -/
def after [DecidableEq ι] (crew : Crew ι Memory) (files : Files)
    (schedule : List ι) : State ι Memory :=
  schedule.foldl crew.step (crew.start files)

/-- Whether the jobs work in one directory under names of their own, and keep to them. -/
structure IsApart (crew : Crew ι Memory) (directory : Location) : Prop where
  together : ∀ i, (crew.job i).directory = directory
  noSlash : ∀ i, '/' ∉ (crew.job i).name
  distinct : Function.Injective fun i => (crew.job i).name
  keeps :
    ∀ i memory stage input output,
      ((crew.around i).respond memory stage input output).1.KeepsTo (crew.job i)

/-- Whether no removal of a file of a job is refused. -/
def Removes (crew : Crew ι Memory) : Prop :=
  ∀ i memory stage input output,
    ((crew.around i).respond memory stage input output).1 ≠ .cleared true

/-- Whether no job has a name that is taken. -/
def IsFresh (crew : Crew ι Memory) (files : Files) : Prop :=
  ∀ i, files.find? (crew.job i).input = none ∧
    files.find? (crew.job i).output = none

/-- Whether a job of a crew cannot tell two states apart, and has come as far in both. -/
structure Matches (crew : Crew ι Memory) (initial : Files) (i : ι)
    (state solo : State ι Memory) : Prop where
  progress : state.2 i = solo.2 i
  files : (crew.job i).SameFor state.1 solo.1
  standing : (crew.job i).Standing initial state.1 (state.2 i).stage
  soloStanding : (crew.job i).Standing initial solo.1 (solo.2 i).stage

/-- Whether a location is none of the files of the jobs. -/
def IsElsewhere (crew : Crew ι Memory) (place : Location) : Prop :=
  ∀ i, place ≠ (crew.job i).input ∧ place ≠ (crew.job i).output

/-- Whether the files are as at the start but for those of jobs that are not over. -/
structure Kept (crew : Crew ι Memory) (initial : Files) (state : State ι Memory) :
    Prop where
  elsewhere :
    ∀ place, crew.IsElsewhere place → ∀ content,
      state.1.find? place = some (.file content) ↔
        initial.find? place = some (.file content)
  tidy : ∀ i, (crew.job i).Tidy state.1 (state.2 i).stage

variable
  {crew : Crew ι Memory}
  {directory : Location}
  {initial : Files}
  {state solo : State ι Memory}
  {i j : ι}

theorem IsApart.apartFrom
    (apart : crew.IsApart directory)
    (different : i ≠ j) :
    (crew.job j).ApartFrom (crew.job i) where
  together := (apart.together i).trans (apart.together j).symm
  noSlash := apart.noSlash j
  otherNoSlash := apart.noSlash i
  different := apart.distinct.ne different

theorem matches_start
    (crew : Crew ι Memory)
    (initial : Files)
    (i : ι) :
    crew.Matches initial i (crew.start initial) (crew.start initial) where
  progress := rfl
  files := ⟨rfl, rfl⟩
  standing := ⟨Or.inl (.refl _ _), False.elim⟩
  soloStanding := ⟨Or.inl (.refl _ _), False.elim⟩

theorem kept_start
    (fresh : crew.IsFresh initial) :
    crew.Kept initial (crew.start initial) where
  elsewhere _ _ _ := Iff.rfl
  tidy i := by
    constructor
    · rintro ⟨content, there⟩
      exact Option.some_ne_none _ (there.symm.trans (fresh i).1)
    · rintro ⟨content, there⟩
      exact Option.some_ne_none _ (there.symm.trans (fresh i).2)

/-- The files of a job that has not begun or is over are not there. -/
theorem Kept.not_hasFile
    (kept : crew.Kept initial state)
    (ended :
      (state.2 i).stage = .preparing ∨ Job.outcome? (state.2 i).stage ≠ none) :
    ¬ state.1.HasFile (crew.job i).input ∧ ¬ state.1.HasFile (crew.job i).output := by
  have tidy := kept.tidy i
  cases stage : (state.2 i).stage with
  | preparing | «over» outcome =>
      rw [stage] at tidy
      exact tidy
  | _ =>
      rw [stage] at ended
      simp [Job.outcome?] at ended

variable [DecidableEq ι]

/-! ### One step -/

theorem step_progress_self
    (crew : Crew ι Memory)
    (state : State ι Memory)
    (i : ι) :
    (crew.step state i).2 i =
      ⟨((crew.job i).step (state.1, (state.2 i).stage)
          (crew.answer state i).1).2,
        (crew.answer state i).2⟩ :=
  Function.update_self ..

theorem step_progress_other
    (different : i ≠ j) :
    (crew.step state j).2 i = state.2 i :=
  Function.update_of_ne different ..

/-- The step of a job in a crew is one of the turns of the job. -/
theorem turn_step
    (apart : crew.IsApart directory)
    (state : State ι Memory)
    (i : ι) :
    (crew.job i).Turn state.1 (state.2 i).stage (crew.answer state i).1
      ((crew.step state i).1, ((crew.step state i).2 i).stage) := by
  rw [step_progress_self]
  exact Job.turn_step (apart.keeps i _ _ _ _) ..

/-! ### A job cannot tell whether others are there -/

/-- A step of another job leaves a state that the job takes for the same. -/
theorem Matches.step_other
    (same : crew.Matches initial i state solo)
    (apart : crew.IsApart directory)
    (different : i ≠ j) :
    crew.Matches initial i (crew.step state j) solo := by
  have turn := turn_step apart state j
  have apartFrom := apart.apartFrom different
  have kept := turn.sameFor_other apartFrom
  have idle : (crew.step state j).2 i = state.2 i :=
    step_progress_other different
  exact {
    progress := idle.trans same.progress
    files := kept.symm.trans same.files
    standing := by
      rw [idle]
      exact turn.standing_other apartFrom same.standing
    soloStanding := same.soloStanding }

/-- A step of the job itself does the same in both states. -/
theorem Matches.step_self
    (same : crew.Matches initial i state solo)
    (apart : crew.IsApart directory) :
    crew.Matches initial i (crew.step state i) (crew.step solo i) := by
  have answers : crew.answer state i = crew.answer solo i := by
    unfold answer
    rw [same.progress, same.files.input, same.files.output]
  have noSlash := apart.noSlash i
  have alike :
      (crew.job i).Alike
        ((crew.job i).step (state.1, (state.2 i).stage) (crew.answer state i).1)
        ((crew.job i).step (solo.1, (solo.2 i).stage) (crew.answer solo i).1) := by
    rw [← answers]
    exact Job.step_alike noSlash (apart.keeps i _ _ _ _) same.standing
      same.soloStanding ⟨congrArg JobProgress.stage same.progress, same.files⟩
  exact {
    progress := by
      rw [step_progress_self, step_progress_self, alike.stage, answers]
    files := alike.files
    standing := (turn_step apart state i).standing noSlash same.standing
    soloStanding := (turn_step apart solo i).standing noSlash same.soloStanding }

theorem after_concat
    (crew : Crew ι Memory)
    (initial : Files)
    (schedule : List ι)
    (j : ι) :
    crew.after initial (schedule ++ [j]) =
      crew.step (crew.after initial schedule) j :=
  List.foldl_append ..

/-- A job comes as far in a crew as with the steps of all others left out. -/
theorem matches_after
    (apart : crew.IsApart directory)
    (initial : Files)
    (schedule : List ι)
    (i : ι) :
    crew.Matches initial i (crew.after initial schedule)
      (crew.after initial (schedule.filter (· = i))) := by
  -- From the end: the last step is taken in both runs, or left out of the second.
  induction schedule using List.reverseRecOn with
  | nil =>
      exact matches_start crew initial i
  | append_singleton schedule j inductionHypothesis =>
      rw [after_concat, List.filter_append]
      by_cases same : i = j
      · subst same
        have own : [i].filter (· = i) = [i] := by
          simp
        rw [own, after_concat]
        exact inductionHypothesis.step_self apart
      · have others : [j].filter (· = i) = [] := by
          simp [Ne.symm same]
        rw [others, List.append_nil]
        exact inductionHypothesis.step_other apart same

/-! ### What is left of the files -/

theorem Kept.step
    (kept : crew.Kept initial state)
    (apart : crew.IsApart directory)
    (removes : crew.Removes)
    (j : ι) :
    crew.Kept initial (crew.step state j) where
  elsewhere place notOurs content :=
    ((turn_step apart state j).file_iff (notOurs j).1 (notOurs j).2).trans
      (kept.elsewhere place notOurs content)
  tidy i := by
    have turn := turn_step apart state j
    by_cases same : i = j
    · subst same
      exact turn.tidy (apart.noSlash i)
        (Job.unlinks_of_ne_refusal (removes i _ _ _ _) _) (kept.tidy i)
    · rw [step_progress_other same]
      exact (turn.sameFor_other (apart.apartFrom same)).tidy (kept.tidy i)

theorem kept_after
    (apart : crew.IsApart directory)
    (fresh : crew.IsFresh initial)
    (removes : crew.Removes)
    (schedule : List ι) :
    crew.Kept initial (crew.after initial schedule) := by
  induction schedule using List.reverseRecOn with
  | nil =>
      exact kept_start fresh
  | append_singleton schedule j inductionHypothesis =>
      rw [after_concat]
      exact inductionHypothesis.step apart removes j

/-- A job that never takes a step has not begun. -/
theorem stage_of_not_mem
    (apart : crew.IsApart directory)
    (initial : Files)
    {schedule : List ι}
    (idle : i ∉ schedule) :
    ((crew.after initial schedule).2 i).stage = .preparing := by
  have none : schedule.filter (· = i) = [] := by
    rw [List.filter_eq_nil_iff]
    intro j member same
    exact idle (of_decide_eq_true same ▸ member)
  rw [(matches_after apart initial schedule i).progress, none]
  rfl

/--
In every order of their steps, jobs that work in one directory under different names come
each as far, and to the same outcome, as with the steps of all others left out. If no name
was taken and no removal is refused, there are exactly the files that there were before as
soon as all jobs that have begun are over.
-/
theorem run_as_alone
    (apart : crew.IsApart directory)
    (initial : Files)
    (schedule : List ι) :
    (∀ i,
        (crew.after initial schedule).2 i =
          (crew.after initial (schedule.filter (· = i))).2 i) ∧
      (crew.IsFresh initial → crew.Removes →
        (∀ i ∈ schedule,
          Job.outcome? ((crew.after initial schedule).2 i).stage ≠ none) →
        ∀ place content,
          (crew.after initial schedule).1.find? place = some (.file content) ↔
            initial.find? place = some (.file content)) := by
  refine ⟨fun i => (matches_after apart initial schedule i).progress, ?_⟩
  intro fresh removes ended place content
  have kept := kept_after apart fresh removes schedule
  have gone (i : ι) :
      ¬ (crew.after initial schedule).1.HasFile (crew.job i).input ∧
        ¬ (crew.after initial schedule).1.HasFile (crew.job i).output := by
    apply kept.not_hasFile
    by_cases begun : i ∈ schedule
    · exact Or.inr (ended i begun)
    · exact Or.inl (stage_of_not_mem apart initial begun)
  by_cases elsewhere : crew.IsElsewhere place
  · exact kept.elsewhere place elsewhere content
  · have ours :
        ∃ i, place = (crew.job i).input ∨ place = (crew.job i).output := by
      unfold IsElsewhere at elsewhere
      grind
    obtain ⟨i, rfl | rfl⟩ := ours
    · rw [(fresh i).1]
      exact ⟨fun there => absurd ⟨content, there⟩ (gone i).1, nofun⟩
    · rw [(fresh i).2]
      exact ⟨fun there => absurd ⟨content, there⟩ (gone i).2, nofun⟩

/-! ### Two jobs with scripts -/

/-- A script in which a job comes to a document that is the source. -/
def script (job : Job) : Nat → JobEvent
  | 0 => .directory none
  | 1 => .input
  | 2 => .launch .started
  | 3 => .acts (job.convert some)
  | 4 => .child (.exits 0)
  | 5 => .child .reaped
  | 6 => .child (.closes [] [])
  | 7 => .output false
  | _ => .cleared false

theorem script_keepsTo
    {job : Job}
    (noSlash : '/' ∉ job.name)
    (moment : Nat) :
    (script job moment).KeepsTo job := by
  intro change acts
  unfold script at acts
  split at acts <;>
    cases acts
  exact Job.confines_convert noSlash some

theorem script_removes
    (job : Job)
    (moment : Nat) :
    script job moment ≠ .cleared true := by
  intro removal
  unfold script at removal
  split at removal <;>
    cases removal

/-- Two jobs in a directory that is not there yet. -/
def pair : Crew Bool Nat :=
  let job (second : Bool) : Job := {
    compiler := {
      command := ["typst".toList]
      timeout := .integer 30
      workdir := Path.ofText "/work".toList
      fontPaths := [] }
    name := if second then ['b'] else ['a']
    source := if second then ['y'] else ['x']
    home := [] }
  { job := job
    around := fun i => {
      initial := 0
      respond := fun moment _ _ _ => (script (job i) moment, moment + 1) } }

theorem pair_isApart :
    pair.IsApart ["work".toList] where
  together := by decide
  noSlash := by decide
  distinct := by
    unfold Function.Injective
    decide
  keeps i moment _ _ _ :=
    script_keepsTo (by revert i; decide) moment

/-- A file that belongs to neither of the two jobs. -/
def besidePair : Files :=
  [(["kept".toList], .file [7])]

/-- The steps of the two jobs in turns. -/
def inTurns : List Bool :=
  (List.replicate 10 [false, true]).flatten

/-- The two jobs step by step in turns, each to the document of its own source. -/
theorem run_as_alone_ofPair :
    (∀ i,
        (pair.after besidePair inTurns).2 i =
          (pair.after besidePair (inTurns.filter (· = i))).2 i) ∧
      (∀ i,
        Job.outcome? ((pair.after besidePair inTurns).2 i).stage =
          some (.document (pair.job i).source.utf8)) ∧
      ∀ place content,
        (pair.after besidePair inTurns).1.find? place = some (.file content) ↔
          besidePair.find? place = some (.file content) := by
  have fresh : pair.IsFresh besidePair := by
    unfold IsFresh
    decide
  have removes : pair.Removes :=
    fun i moment _ _ _ => script_removes (pair.job i) moment
  obtain ⟨alone, left⟩ := run_as_alone pair_isApart besidePair inTurns
  exact ⟨alone, by decide, left fresh removes (by decide)⟩

end Crew

end ContractTemplates
