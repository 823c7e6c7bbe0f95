import ContractTemplates.Proofs.Compile.ChildEnd
import ContractTemplates.Proofs.Compile.JobView

namespace ContractTemplates

/-!
# What a job leaves behind

A job comes to its end in many ways: the file system refuses something, the command cannot
be started, is late, fails or leaves no document, or the job is cancelled while it starts
the command, watches it or waits for its end. `Job.leaves_nothing_behind` says of all of
them that both files of the job are gone, and that everywhere else there is what was there
before, but for what the command changed and for directories on the way to the working
directory.

The command may do anything to any file as long as it runs. What is known of the files in
each stage nevertheless is `Job.Prepared`: a job leaves its command only after the command
has ended, and from then on nothing but the removals happens to its files.
-/

/-- The supervision of a job that watches its command. -/
def JobStage.supervision? : JobStage → Option Supervision
  | .running supervision => some supervision
  | _ => none

/-- Whether an event is something that the command does to the files. -/
def JobEvent.isAct : JobEvent → Bool
  | .acts _ => true
  | _ => false

namespace Files

/--
Whether a place has what it had before, or has a directory on the way to a location where it
had nothing.
-/
def KeptOrMade (location : Location) (before after : Files) (place : Location) : Prop :=
  after.find? place = before.find? place ∨
    (before.find? place = none ∧ place <+: location ∧
      after.find? place = some .directory)

variable
  {location place : Location}
  {before middle after : Files}

theorem KeptOrMade.trans
    (first : KeptOrMade location before middle place)
    (second : KeptOrMade location middle after place) :
    KeptOrMade location before after place := by
  unfold KeptOrMade at first second ⊢
  grind

/-- Where directories were added on the way, a place is kept or made. -/
theorem keptOrMade_of_added
    {added : Prop}
    [Decidable added]
    (onWay : added → place <+: location)
    (found :
      after.find? place =
        (before.find? place).or (if added then some .directory else none)) :
    KeptOrMade location before after place := by
  unfold KeptOrMade
  rw [found]
  cases there : before.find? place with
  | some entry =>
      exact Or.inl rfl
  | none =>
      by_cases made : added
      · exact Or.inr ⟨rfl, onWay made, by rw [if_pos made]; rfl⟩
      · exact Or.inl (by rw [if_neg made]; rfl)

end Files

namespace Job

/--
The files and the stage of a job when its working directory is granted or refused: parents
of the directory may have been made by then.
-/
def begun (job : Job) (initial : Files) (parents : Nat) : Files × JobStage :=
  (((Files.wayTo job.directory).take parents).foldl Files.ensure initial, .preparing)

/-- Whether something holds of every step that a job takes in a course of events. -/
def Always (job : Job) (holds : Files × JobStage → JobEvent → Prop) :
    Files × JobStage → List JobEvent → Prop
  | _, [] => True
  | state, event :: rest =>
      holds state event ∧ job.Always holds (job.step state event) rest

/-- Whether no directory is at the two files of a job. -/
def HasNoDirectory (job : Job) (files : Files) : Prop :=
  files.find? job.input ≠ some .directory ∧ files.find? job.output ≠ some .directory

/-- Whether a command that has ended has left no directory at the two files of its job. -/
def LeftFiles (job : Job) (state : Files × JobStage) (_ : JobEvent) : Prop :=
  ∀ supervision ∈ state.2.supervision?,
    supervision.child ≠ .running → job.HasNoDirectory state.1

/-- Whether the command, if it does something, leaves a place as it is. -/
def Spares (job : Job) (place : Location) (state : Files × JobStage)
    (event : JobEvent) : Prop :=
  event.isAct → (job.step state event).1.find? place = state.1.find? place

instance decidableHasFile
    {location : Location}
    {files : Files} :
    Decidable (files.HasFile location) :=
  match there : files.find? location with
  | some (.file content) => isTrue ⟨content, there⟩
  | some .directory =>
      isFalse fun ⟨_, found⟩ => nomatch there.symm.trans found
  | none => isFalse fun ⟨_, found⟩ => nomatch there.symm.trans found

instance decidableHasNoDirectory
    {job : Job}
    {files : Files} :
    Decidable (job.HasNoDirectory files) :=
  inferInstanceAs (Decidable (_ ∧ _))

instance decidableAlways
    {job : Job}
    {holds : Files × JobStage → JobEvent → Prop}
    [∀ state event, Decidable (holds state event)] :
    ∀ (state : Files × JobStage) (events : List JobEvent),
      Decidable (job.Always holds state events)
  | _, [] => isTrue trivial
  | state, event :: rest =>
      have : Decidable (job.Always holds (job.step state event) rest) :=
        decidableAlways _ rest
      inferInstanceAs (Decidable (_ ∧ _))

instance decidableLeftFiles
    {job : Job}
    (state : Files × JobStage)
    (event : JobEvent) :
    Decidable (job.LeftFiles state event) :=
  inferInstanceAs (Decidable (∀ _ ∈ state.2.supervision?, _ → _))

instance decidableSpares
    {job : Job}
    {place : Location}
    (state : Files × JobStage)
    (event : JobEvent) :
    Decidable (job.Spares place state event) :=
  inferInstanceAs (Decidable (_ → _))

instance decidableUnlinks
    {job : Job}
    (state : Files × JobStage)
    (event : JobEvent) :
    Decidable (job.Unlinks state event) :=
  inferInstanceAs (Decidable (_ → ∀ _ ∈ job.clearing? state.2, ¬ _))

/-- What is known of the files of a job in a stage. -/
structure Prepared (job : Job) (state : Files × JobStage) : Prop where
  sound : ∀ supervision ∈ state.2.supervision?, supervision.IsSound
  noDirectory : state.2.supervision? = none → job.HasNoDirectory state.1
  tidy : job.Tidy state.1 state.2

variable
  {job : Job}
  {initial files changed : Files}
  {state : Files × JobStage}
  {stage : JobStage}
  {event : JobEvent}
  {place : Location}

/-! ### Steps -/

theorem keepsTo_of_not_isAct
    (notAct : event.isAct = false) :
    event.KeepsTo job := by
  rintro change rfl
  cases notAct

/-- A job that watches its command goes on until the command has ended. -/
theorem supervision?_step_of_running
    {supervision : Supervision}
    (sound : supervision.IsSound)
    (running : supervision.child = .running)
    (job : Job)
    (files : Files)
    (event : JobEvent) :
    ((job.step (files, .running supervision) event).2.supervision?).isSome := by
  cases event with
  | child event =>
      have notOver := Supervision.outcome?_step_of_running sound running event
      simp only [step, afterChild, notOver]
      rfl
  | acts change =>
      simp only [step, running, if_true]
      rfl
  | _ =>
      rfl

theorem supervision?_afterStatus
    (status : Int)
    (output errors : Text) :
    (afterStatus status output errors).supervision? = none := by
  unfold afterStatus
  split <;>
    rfl

/-- A job that goes on watching its command goes on with the same supervision. -/
theorem eq_of_mem_afterChild
    {supervision after : Supervision}
    (member : after ∈ (job.afterChild supervision).supervision?) :
    after = supervision := by
  unfold afterChild at member
  split at member
  · exact (Option.some.inj member).symm
  · rw [supervision?_afterStatus] at member
    cases member
  · cases member
  · cases member

theorem supervision?_attempt
    {next : JobStage}
    (none : next.supervision? = none)
    (path : Path)
    (files : Files)
    (result : Except FileFault Files) :
    (attempt path next files result).2.supervision? = .none := by
  cases result with
  | ok changed =>
      exact none
  | error fault =>
      rfl

/-- A supervision is new when it begins. -/
theorem eq_start_of_mem_step
    {supervision : Supervision}
    (none : stage.supervision? = none)
    (member : supervision ∈ (job.step (files, stage) event).2.supervision?) :
    supervision = .start := by
  have notMember (next : JobStage) (gone : next.supervision? = .none)
      (member : supervision ∈ next.supervision?) : supervision = .start := by
    rw [gone] at member
    cases member
  cases stage with
  | running =>
      cases none
  | preparing =>
      cases event with
      | directory refusal =>
          exact notMember _ (supervision?_attempt rfl _ _ _) member
      | _ =>
          cases member
  | writing =>
      cases event with
      | input =>
          exact notMember _ (supervision?_attempt rfl _ _ _) member
      | _ =>
          cases member
  | launching =>
      cases event with
      | launch launch =>
          cases launch with
          | started =>
              exact (Option.some.inj member).symm
          | missing =>
              exact notMember _
                (supervision?_afterStatus missingStatus [] (missingText job.command))
                member
          | refused fault path =>
              cases member
      | _ =>
          cases member
  | reading =>
      cases event with
      | output refused =>
          unfold step at member
          dsimp only at member
          split at member <;>
            cases member
      | _ =>
          cases member
  | clearingInput outcome =>
      cases event <;>
        cases member
  | clearingOutput outcome =>
      cases event <;>
        cases member
  | «over» outcome =>
      cases member

/-- Every supervision of a job begins and goes on soundly. -/
theorem sound_step
    (sound : ∀ supervision ∈ stage.supervision?, supervision.IsSound)
    (files : Files)
    (event : JobEvent) :
    ∀ supervision ∈ (job.step (files, stage) event).2.supervision?,
      supervision.IsSound := by
  intro after member
  cases stage with
  | running supervision =>
      have here := sound supervision rfl
      cases event with
      | child event =>
          rw [eq_of_mem_afterChild member]
          exact here.step event
      | acts change =>
          unfold step at member
          dsimp only at member
          split at member <;>
            (cases member; exact here)
      | _ =>
          cases member
          exact here
  | _ =>
      rw [eq_start_of_mem_step rfl member]
      exact Supervision.isSound_start

/-! ### Directories at the files of a job -/

theorem SameFor.hasNoDirectory
    (same : job.SameFor files changed)
    (none : job.HasNoDirectory files) :
    job.HasNoDirectory changed := by
  unfold HasNoDirectory at none ⊢
  rw [← same.input, ← same.output]
  exact none

theorem HasNoDirectory.write
    {location : Location}
    {content : Bytes}
    (none : job.HasNoDirectory files)
    (wrote : files.write location content = .ok changed) :
    job.HasNoDirectory changed := by
  unfold HasNoDirectory at none ⊢
  rw [Files.find?_write wrote, Files.find?_write wrote]
  grind

theorem HasNoDirectory.clear
    (none : job.HasNoDirectory files)
    (location : Location)
    (refused : Bool) :
    job.HasNoDirectory (clear location refused files) := by
  unfold HasNoDirectory at none ⊢
  rw [find?_clear, find?_clear]
  grind

/-- The job itself puts no directory at its files. -/
theorem HasNoDirectory.step
    (none : job.HasNoDirectory files)
    (noSlash : '/' ∉ job.name)
    (notAct : event.isAct = false)
    (stage : JobStage) :
    job.HasNoDirectory (job.step (files, stage) event).1 := by
  cases stage with
  | preparing =>
      cases event with
      | directory refusal =>
          cases refusal with
          | some fault =>
              exact none
          | none =>
              cases verdict : files.makeDirectories job.directory with
              | error fault =>
                  simp only [Job.step, verdict, attempt]
                  exact none
              | ok changed =>
                  simp only [Job.step, verdict, attempt]
                  exact (sameFor_of_makeDirectories noSlash verdict).hasNoDirectory none
      | _ =>
          exact none
  | writing =>
      cases event with
      | input =>
          cases verdict : files.write job.input job.source.utf8 with
          | error fault =>
              simp only [Job.step, verdict, attempt]
              exact none
          | ok changed =>
              simp only [Job.step, verdict, attempt]
              exact none.write verdict
      | inputRefused fault left =>
          cases left with
          | none =>
              exact none
          | some content =>
              cases verdict : files.write job.input content with
              | error fault =>
                  simp only [Job.step, verdict]
                  exact none
              | ok changed =>
                  simp only [Job.step, verdict]
                  exact none.write verdict
      | _ =>
          exact none
  | launching =>
      cases event with
      | launch launch =>
          cases launch <;>
            exact none
      | _ =>
          exact none
  | running supervision =>
      cases event with
      | acts change =>
          cases notAct
      | _ =>
          exact none
  | reading =>
      cases event with
      | output refused =>
          unfold Job.step
          dsimp only
          split <;>
            exact none
      | _ =>
          exact none
  | clearingInput outcome =>
      cases event with
      | cleared refused =>
          exact none.clear _ _
      | _ =>
          exact none
  | clearingOutput outcome =>
      cases event with
      | cleared refused =>
          exact none.clear _ _
      | _ =>
          exact none
  | «over» outcome =>
      exact none

/-! ### A step and a run -/

/-- What the command does changes no stage, and no files unless it is watched. -/
theorem step_of_isAct
    (act : event.isAct = true)
    (job : Job)
    (files : Files)
    (stage : JobStage) :
    (job.step (files, stage) event).2 = stage ∧
      (stage.supervision? = none → (job.step (files, stage) event).1 = files) := by
  cases event with
  | acts change =>
      cases stage with
      | running supervision =>
          unfold step
          dsimp only
          split
          · exact ⟨rfl, nofun⟩
          · exact ⟨rfl, nofun⟩
      | _ =>
          exact ⟨rfl, fun _ => rfl⟩
  | _ =>
      cases act

/-- When a job leaves its command, no directory is at its files. -/
theorem Prepared.noDirectory_of_leaving
    (prepared : job.Prepared (files, stage))
    (left : job.LeftFiles (files, stage) event)
    (leaving : (job.step (files, stage) event).2.supervision? = none) :
    job.HasNoDirectory files := by
  cases stage with
  | running supervision =>
      apply left supervision rfl
      intro running
      have goesOn :=
        supervision?_step_of_running (prepared.sound supervision rfl) running job
          files event
      rw [leaving] at goesOn
      cases goesOn
  | _ =>
      exact prepared.noDirectory rfl

/-- Every step keeps what is known of the files of a job. -/
theorem Prepared.step
    (prepared : job.Prepared (files, stage))
    (noSlash : '/' ∉ job.name)
    (left : job.LeftFiles (files, stage) event)
    (unlinks : job.Unlinks (files, stage) event) :
    job.Prepared (job.step (files, stage) event) where
  sound := sound_step prepared.sound files event
  noDirectory := by
    intro leaving
    have none := prepared.noDirectory_of_leaving left leaving
    cases act : event.isAct with
    | false =>
        exact none.step noSlash act stage
    | true =>
        obtain ⟨sameStage, sameFiles⟩ := step_of_isAct act job files stage
        rw [sameStage] at leaving
        rw [sameFiles leaving]
        exact none
  tidy := by
    cases act : event.isAct with
    | false =>
        exact (turn_step (keepsTo_of_not_isAct act) files stage).tidy noSlash unlinks
          prepared.tidy
    | true =>
        obtain ⟨sameStage, sameFiles⟩ := step_of_isAct act job files stage
        rw [sameStage]
        cases stage with
        | running supervision =>
            exact trivial
        | _ =>
            rw [sameFiles rfl]
            exact prepared.tidy

/-- Elsewhere a step keeps what is there, or makes a directory on the way. -/
theorem keptOrMade_step
    (notInput : place ≠ job.input)
    (notOutput : place ≠ job.output)
    (spares : job.Spares place (files, stage) event) :
    Files.KeptOrMade job.directory files (job.step (files, stage) event).1 place := by
  cases act : event.isAct with
  | false =>
      have turn : job.Turn files stage event (job.step (files, stage) event) :=
        turn_step (keepsTo_of_not_isAct act) files stage
      rcases turn.makes_or_sameElsewhere with made | elsewhere
      · exact Files.keptOrMade_of_added And.right (Files.find?_makeDirectories made)
      · exact Or.inl (elsewhere place notInput notOutput)
  | true =>
      exact Or.inl (spares act)

theorem Always.and
    {first second : Files × JobStage → JobEvent → Prop}
    {events : List JobEvent}
    (always : job.Always first state events)
    (alwaysToo : job.Always second state events) :
    job.Always (fun state event => first state event ∧ second state event)
      state events := by
  induction events generalizing state with
  | nil =>
      exact trivial
  | cons event rest inductionHypothesis =>
      exact ⟨⟨always.1, alwaysToo.1⟩, inductionHypothesis always.2 alwaysToo.2⟩

/-- What every step keeps under a condition, a run keeps that always meets it. -/
theorem Always.keeps
    {holds : Files × JobStage → JobEvent → Prop}
    {motive : Files × JobStage → Prop}
    {events : List JobEvent}
    (always : job.Always holds state events)
    (step :
      ∀ state event, holds state event → motive state → motive (job.step state event))
    (begins : motive state) :
    motive (job.after state events) := by
  induction events generalizing state with
  | nil =>
      exact begins
  | cons event rest inductionHypothesis =>
      exact inductionHypothesis always.2 (step state event always.1 begins)

theorem keptOrMade_begun
    (job : Job)
    (initial : Files)
    (parents : Nat)
    (place : Location) :
    Files.KeptOrMade job.directory initial (job.begun initial parents).1 place :=
  Files.keptOrMade_of_added
    (fun among => Files.mem_wayTo.mp (List.mem_of_mem_take among))
    (Files.find?_foldl_ensure ..)

/-- Nothing is at the files of a job when it begins under a name that is not taken. -/
theorem prepared_begun
    (noSlash : '/' ∉ job.name)
    (inputFree : initial.find? job.input = none)
    (outputFree : initial.find? job.output = none)
    (parents : Nat) :
    job.Prepared (job.begun initial parents) := by
  have stillFree
      {own : Location}
      (free : initial.find? own = none)
      (off : ¬ own <+: job.directory) :
      (job.begun initial parents).1.find? own = none := by
    rcases keptOrMade_begun job initial parents own with same | ⟨_, onWay, _⟩
    · exact same.trans free
    · exact absurd onWay off
  have inputStill := stillFree inputFree (input_off noSlash)
  have outputStill := stillFree outputFree (output_off noSlash)
  constructor
  case sound =>
    exact nofun
  case noDirectory =>
    intro _
    unfold HasNoDirectory
    rw [inputStill, outputStill]
    exact ⟨nofun, nofun⟩
  case tidy =>
    constructor
    · rintro ⟨content, there⟩
      cases inputStill.symm.trans there
    · rintro ⟨content, there⟩
      cases outputStill.symm.trans there

theorem find?_eq_none_of_not_hasFile
    (noFile : ¬ files.HasFile place)
    (noDirectory : files.find? place ≠ some .directory) :
    files.find? place = none := by
  cases there : files.find? place with
  | none =>
      rfl
  | some entry =>
      cases entry with
      | file content =>
          exact absurd ⟨content, there⟩ noFile
      | directory =>
          exact absurd there noDirectory

/--
Whatever happens to a job under a name that is not taken, when it is over there is nothing at
its two files, if the command has left no directory there and no file was refused to be
removed. Every other place that the command spares has what it had before, or is a directory
on the way to the working directory where nothing was.
-/
theorem leaves_nothing_behind
    {events : List JobEvent}
    (noSlash : '/' ∉ job.name)
    (inputFree : initial.find? job.input = none)
    (outputFree : initial.find? job.output = none)
    (parents : Nat)
    (left : job.Always job.LeftFiles (job.begun initial parents) events)
    (unlinks : job.Always job.Unlinks (job.begun initial parents) events)
    (ended : outcome? (job.after (job.begun initial parents) events).2 ≠ none) :
    (job.after (job.begun initial parents) events).1.find? job.input = none ∧
      (job.after (job.begun initial parents) events).1.find? job.output = none ∧
      ∀ place,
        place ≠ job.input →
        place ≠ job.output →
        job.Always (job.Spares place) (job.begun initial parents) events →
        Files.KeptOrMade job.directory initial
          (job.after (job.begun initial parents) events).1 place := by
  have prepared : job.Prepared (job.after (job.begun initial parents) events) :=
    (left.and unlinks).keeps
      (fun _ _ holds prepared => prepared.step noSlash holds.1 holds.2)
      (prepared_begun noSlash inputFree outputFree parents)
  obtain ⟨outcome, overWith⟩ :
      ∃ outcome, (job.after (job.begun initial parents) events).2 = .over outcome := by
    unfold outcome? at ended
    split at ended
    · exact ⟨_, ‹_›⟩
    · exact absurd rfl ended
  have noDirectory := prepared.noDirectory (by rw [overWith]; rfl)
  have tidy := prepared.tidy
  rw [overWith] at tidy
  refine ⟨find?_eq_none_of_not_hasFile tidy.1 noDirectory.1,
    find?_eq_none_of_not_hasFile tidy.2 noDirectory.2, ?_⟩
  intro place notInput notOutput spares
  refine spares.keeps
    (motive := fun state => Files.KeptOrMade job.directory initial state.1 place)
    ?_ (keptOrMade_begun job initial parents place)
  intro state event spared kept
  exact kept.trans (keptOrMade_step notInput notOutput spared)

/-! ### A job that is late -/

/-- A job in a directory that is not there yet. -/
def lateJob : Job where
  compiler := {
    command := ["typst".toList]
    timeout := .integer 30
    workdir := Path.ofText "/work/jobs".toList
    fontPaths := [] }
  name := ['a']
  source := ['x']
  home := []

/-- A file that is none of the job's. -/
def besideJob : Files :=
  [(["kept".toList], .file [7])]

/-- The command has written half of a document when the time is up. -/
def lateEvents : List JobEvent := [
  .directory none,
  .input,
  .launch .started,
  .acts fun files => files.put lateJob.output (.file [1]),
  .child .expires,
  .child .reaped,
  .child .answered,
  .cleared false,
  .cleared false]

/-- The late job leaves neither its input nor half of a document. -/
theorem leaves_nothing_behind_ofLateJob :
    outcome? (lateJob.after (lateJob.begun besideJob 2) lateEvents).2 =
        some (.failed (.timedOut (.integer 30))) ∧
      (lateJob.after (lateJob.begun besideJob 2) lateEvents).1.find?
          lateJob.input = none ∧
      (lateJob.after (lateJob.begun besideJob 2) lateEvents).1.find?
          lateJob.output = none ∧
      Files.KeptOrMade lateJob.directory besideJob
        (lateJob.after (lateJob.begun besideJob 2) lateEvents).1 ["kept".toList] := by
  have timedOut :
      outcome? (lateJob.after (lateJob.begun besideJob 2) lateEvents).2 =
        some (.failed (.timedOut (.integer 30))) := by
    decide
  have ended :
      outcome? (lateJob.after (lateJob.begun besideJob 2) lateEvents).2 ≠ none := by
    rw [timedOut]
    exact nofun
  obtain ⟨inputGone, outputGone, elsewhere⟩ :=
    leaves_nothing_behind (by decide) (by decide) (by decide) 2 (by decide)
      (by decide) ended
  exact ⟨timedOut, inputGone, outputGone,
    elsewhere _ (by decide) (by decide) (by decide)⟩

end Job

end ContractTemplates
