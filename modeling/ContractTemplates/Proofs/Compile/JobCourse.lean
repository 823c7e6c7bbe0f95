import ContractTemplates.Compile.Job
import Mathlib.Data.List.Induction

namespace ContractTemplates

/-!
# The course of a job

The course of a job is what happens to it, with the files and the stage at which it happens. A
job passes landmarks on the way, `Job.Passed`, and its supervision sees some of the events,
`watched`. A moment that decides what the job comes to decides it for good,
`Job.decided?_of_mem_course`.
-/

/-- What happens to a job, and the files and the stage at which it happens. -/
structure Moment where
  files : Files
  stage : JobStage
  event : JobEvent

/-- What the supervision of the command sees at a moment. -/
def Moment.childEvent? (moment : Moment) : Option ChildEvent :=
  match moment.stage, moment.event with
  | .running _, .child event => some event
  | _, _ => none

/-- What the supervision of the command has seen in a course. -/
def watched (course : List Moment) : List ChildEvent :=
  course.filterMap Moment.childEvent?

/-- What a job passes on its way. -/
inductive Landmark where
  | directoryMade
  | inputWritten
  | commandStarted
  /-- There is no such command, or no such directory to start it in. -/
  | commandMissing
  | startCancelled
  | documentRead (content : Bytes)

namespace Job

/-- What happens to a job in a sequence of events. -/
def course (job : Job) : Files × JobStage → List JobEvent → List Moment
  | _, [] => []
  | (files, stage), event :: rest =>
      ⟨files, stage, event⟩ :: job.course (job.step (files, stage) event) rest

/-- Whether a job passes a landmark at a moment. -/
inductive Passes (job : Job) : Moment → Landmark → Prop where
  | directoryMade {files changed : Files}
      (made : files.makeDirectories job.directory = .ok changed) :
      job.Passes ⟨files, .preparing, .directory none⟩ .directoryMade
  | inputWritten {files changed : Files}
      (wrote : files.write job.input job.source.utf8 = .ok changed) :
      job.Passes ⟨files, .writing, .input⟩ .inputWritten
  | commandStarted (files : Files) :
      job.Passes ⟨files, .launching, .launch .started⟩ .commandStarted
  | commandMissing (files : Files) :
      job.Passes ⟨files, .launching, .launch .missing⟩ .commandMissing
  | startCancelled (files : Files) :
      job.Passes ⟨files, .launching, .launchCancelled⟩ .startCancelled
  | documentRead {files : Files} {content : Bytes}
      (found : files.read job.output = .ok content) :
      job.Passes ⟨files, .reading, .output false⟩ (.documentRead content)

/-- Whether a job has passed a landmark in a course. -/
def Passed (job : Job) (course : List Moment) (landmark : Landmark) : Prop :=
  ∃ moment ∈ course, job.Passes moment landmark

/-- Whether a job has come to the start of its command. -/
structure HasStarted (job : Job) (course : List Moment) : Prop where
  made : job.Passed course .directoryMade
  written : job.Passed course .inputWritten
  started : job.Passed course .commandStarted

variable
  {job : Job}
  {course : List Moment}
  {moment : Moment}
  {landmark : Landmark}
  {outcome : JobOutcome}
  {files : Files}
  {stage : JobStage}

/-! ### One more moment -/

theorem watched_concat_of_none
    (unseen : moment.childEvent? = none) :
    watched (course ++ [moment]) = watched course := by
  simp [watched, List.filterMap_append, unseen]

theorem watched_concat_child
    (course : List Moment)
    (files : Files)
    (supervision : Supervision)
    (event : ChildEvent) :
    watched (course ++ [⟨files, .running supervision, .child event⟩]) =
      watched course ++ [event] := by
  simp [watched, List.filterMap_append, Moment.childEvent?]

theorem Passed.concat
    (passed : job.Passed course landmark)
    (moment : Moment) :
    job.Passed (course ++ [moment]) landmark := by
  obtain ⟨earlier, member, passes⟩ := passed
  exact ⟨earlier, List.mem_append_left _ member, passes⟩

theorem Passes.passed
    (passes : job.Passes moment landmark)
    (course : List Moment) :
    job.Passed (course ++ [moment]) landmark :=
  ⟨moment, List.mem_concat_self, passes⟩

theorem HasStarted.concat
    (reached : job.HasStarted course)
    (moment : Moment) :
    job.HasStarted (course ++ [moment]) where
  made := reached.made.concat moment
  written := reached.written.concat moment
  started := reached.started.concat moment

theorem course_concat
    (job : Job)
    (state : Files × JobStage)
    (events : List JobEvent)
    (event : JobEvent) :
    job.course state (events ++ [event]) =
      job.course state events ++
        [⟨(job.after state events).1, (job.after state events).2, event⟩] := by
  induction events generalizing state with
  | nil =>
      rfl
  | cons first rest inductionHypothesis =>
      rw [List.cons_append, Job.course, inductionHypothesis]
      rfl

theorem after_concat
    (job : Job)
    (state : Files × JobStage)
    (events : List JobEvent)
    (event : JobEvent) :
    job.after state (events ++ [event]) = job.step (job.after state events) event := by
  simp [after]

/-! ### What is decided -/

/-- The outcome that a job has come to, before it has removed its files or after. -/
def decided? : JobStage → Option JobOutcome
  | .clearingInput outcome => some outcome
  | .clearingOutput outcome => some outcome
  | .over outcome => some outcome
  | _ => none

theorem decided?_step
    (decided : decided? stage = some outcome)
    (job : Job)
    (files : Files)
    (event : JobEvent) :
    decided? (job.step (files, stage) event).2 = some outcome := by
  cases stage with
  | clearingInput earlier =>
      cases event <;>
        exact decided
  | clearingOutput earlier =>
      cases event <;>
        exact decided
  | «over» earlier =>
      exact decided
  | _ =>
      cases decided

theorem decided?_after
    {state : Files × JobStage}
    (decided : decided? state.2 = some outcome)
    (job : Job)
    (events : List JobEvent) :
    decided? (job.after state events).2 = some outcome := by
  induction events generalizing state with
  | nil =>
      exact decided
  | cons event rest inductionHypothesis =>
      exact inductionHypothesis (decided?_step decided job state.1 event)

/-- Whether a moment decides what a job comes to. -/
def Decides (job : Job) (moment : Moment) (outcome : JobOutcome) : Prop :=
  decided? (job.step (moment.files, moment.stage) moment.event).2 = some outcome

/-- What a moment decides is what the job comes to. -/
theorem decided?_of_mem_course
    {state : Files × JobStage}
    {events : List JobEvent}
    (member : moment ∈ job.course state events)
    (decides : job.Decides moment outcome) :
    decided? (job.after state events).2 = some outcome := by
  induction events generalizing state with
  | nil =>
      cases member
  | cons event rest inductionHypothesis =>
      rcases List.mem_cons.mp member with rfl | later
      · exact decided?_after decides job rest
      · exact inductionHypothesis later

/-- A missing command decides a job: its absence is the error that is told. -/
theorem Passes.decides_missing
    (passes : job.Passes moment .commandMissing) :
    job.Decides moment (.failed (.rejected (missingText job.command))) := by
  cases passes
  rfl

theorem Passes.decides_cancelled
    (passes : job.Passes moment .startCancelled) :
    job.Decides moment .cancelled := by
  cases passes
  rfl

theorem Passes.decides_document
    {content : Bytes}
    (passes : job.Passes moment (.documentRead content)) :
    job.Decides moment (.document content) := by
  cases passes with
  | documentRead found =>
      simp only [Decides, step, found]
      rfl

end Job

end ContractTemplates
