import ContractTemplates.Proofs.Compile.ChildReport
import ContractTemplates.Proofs.Compile.JobCourse
import ContractTemplates.Proofs.Compile.JobTurns
import ContractTemplates.Proofs.Compile.Leftovers

namespace ContractTemplates

/-!
# What a job comes to

The outcome of a job is settled by its course: the document exactly if the directory was made,
the input written, the command started, its success reported in time and the document read; a
timeout exactly if the time was up while the command was watched and no cancellation has cut
the wait for the killed command short. `Job.EndsAs` lists what each outcome says.

`Job.Account` says for each stage what must have happened before. Every event keeps it, so it
holds of every course, and `Job.ends_as_documented` reads the outcomes off it.
-/

/-- The words for a command that has failed: its errors, or its output, or its status. -/
def diagnosis (status : Int) (output errors : Text) : Text :=
  ([errors, output].find? fun words => !words.isEmpty).getD
    ("typst exited with code ".toList ++ Text.ofInt status)

namespace CompileFault

variable
  {status : Int}
  {output errors : Text}

theorem message_diagnosed :
    (diagnosed status output errors).message = diagnosis status output errors := by
  cases errors with
  | cons first rest =>
      rfl
  | nil =>
      cases output with
      | cons first rest =>
          rfl
      | nil =>
          rfl

theorem message_diagnosed_ne_nil :
    (diagnosed status output errors).message ≠ [] := by
  cases errors with
  | cons first rest =>
      exact nofun
  | nil =>
      cases output with
      | cons first rest =>
          exact nofun
      | nil =>
          exact nofun

theorem diagnosed_ne_timedOut
    (timeout : Number) :
    diagnosed status output errors ≠ .timedOut timeout := by
  unfold diagnosed
  split
  · exact nofun
  · split <;>
      exact nofun

end CompileFault

open ChildEvent Supervision

namespace Job

/-- What the outcome of a job says about its course. -/
structure EndsAs (job : Job) (course : List Moment) (outcome : JobOutcome) : Prop where
  document (content : Bytes) :
    outcome = .document content ↔
      job.HasStarted course ∧
        (∃ output errors, FinishesAs 0 output errors (watched course)) ∧
          job.Passed course (.documentRead content)
  timedOut :
    outcome = .failed (.timedOut job.compiler.timeout) ↔
      IsInterruptedBy .expires (watched course) ∧ ¬ IsCutShort (watched course)
  timedOut_of_not_cancelled :
    .cancelled ∉ watched course →
      (outcome = .failed (.timedOut job.compiler.timeout) ↔
        IsInterruptedBy .expires (watched course))
  cancelled :
    outcome = .cancelled ↔
      job.Passed course .startCancelled ∨
        IsInterruptedBy .cancelled (watched course) ∨ IsCutShort (watched course)
  /-- In every other case the job has failed, and says why. -/
  failed :
    (∀ content, outcome ≠ .document content) →
      outcome ≠ .failed (.timedOut job.compiler.timeout) →
        outcome ≠ .cancelled →
          ∃ fault,
            outcome = .failed fault ∧ (∀ timeout, fault ≠ .timedOut timeout) ∧
              fault.message ≠ []
  /-- After a command that has failed the job says what the command has said. -/
  rejected (status : Int) (output errors : Bytes) :
    FinishesAs status output errors (watched course) →
      status ≠ 0 →
        ∃ fault,
          outcome = .failed fault ∧ (∀ timeout, fault ≠ .timedOut timeout) ∧
            fault.message =
              diagnosis status (streamText output) (streamText errors)
  missing :
    job.Passed course .commandMissing →
      outcome = .failed (.rejected (missingText job.command))

/-- How a job comes to an outcome. -/
inductive Explained (job : Job) (course : List Moment) : JobOutcome → Prop where
  | refused (fault : FileFault) (path : Text)
      (unwatched : watched course = []) :
      job.Explained course (.failed (.refused fault path))
  | missing
      (unwatched : watched course = []) :
      job.Explained course
        (.failed (.diagnosed missingStatus [] (missingText job.command)))
  | startCancelled
      (unwatched : watched course = [])
      (passed : job.Passed course .startCancelled) :
      job.Explained course .cancelled
  | timedOut
      (reported : (start.after (watched course)).outcome? = some .timedOut) :
      job.Explained course (.failed (.timedOut job.compiler.timeout))
  | cancelled
      (reported : (start.after (watched course)).outcome? = some .cancelled) :
      job.Explained course .cancelled
  | rejected {status : Int} {output errors : Bytes}
      (reported :
        (start.after (watched course)).outcome? = some (.finished status output errors))
      (bad : status ≠ 0) :
      job.Explained course
        (.failed (.diagnosed status (streamText output) (streamText errors)))
  | unread {output errors : Bytes}
      (reported :
        (start.after (watched course)).outcome? = some (.finished 0 output errors)) :
      job.Explained course (.failed .noDocument)
  | read {output errors content : Bytes}
      (reached : job.HasStarted course)
      (reported :
        (start.after (watched course)).outcome? = some (.finished 0 output errors))
      (read : job.Passed course (.documentRead content)) :
      job.Explained course (.document content)

/-- What must have happened when a job is in a stage. -/
inductive Account (job : Job) (course : List Moment) : JobStage → Prop where
  | preparing
      (unwatched : watched course = []) :
      job.Account course .preparing
  | writing
      (unwatched : watched course = [])
      (made : job.Passed course .directoryMade) :
      job.Account course .writing
  | launching
      (unwatched : watched course = [])
      (made : job.Passed course .directoryMade)
      (written : job.Passed course .inputWritten) :
      job.Account course .launching
  | running
      (reached : job.HasStarted course) :
      job.Account course (.running (start.after (watched course)))
  | reading {output errors : Bytes}
      (reached : job.HasStarted course)
      (reported :
        (start.after (watched course)).outcome? = some (.finished 0 output errors)) :
      job.Account course .reading
  | clearingInput {outcome : JobOutcome}
      (explained : job.Explained course outcome) :
      job.Account course (.clearingInput outcome)
  | clearingOutput {outcome : JobOutcome}
      (explained : job.Explained course outcome) :
      job.Account course (.clearingOutput outcome)
  | «over» {outcome : JobOutcome}
      (explained : job.Explained course outcome) :
      job.Account course (.over outcome)

variable
  {job : Job}
  {course : List Moment}
  {moment : Moment}
  {landmark : Landmark}
  {outcome : JobOutcome}
  {files : Files}
  {stage : JobStage}

/-- What explains an outcome still explains it when the supervision has seen no more. -/
theorem Explained.concat
    (explained : job.Explained course outcome)
    (unseen : moment.childEvent? = none) :
    job.Explained (course ++ [moment]) outcome := by
  have same : watched (course ++ [moment]) = watched course :=
    watched_concat_of_none unseen
  cases explained with
  | refused fault path unwatched =>
      exact .refused fault path (same.trans unwatched)
  | missing unwatched =>
      exact .missing (same.trans unwatched)
  | startCancelled unwatched passed =>
      exact .startCancelled (same.trans unwatched) (passed.concat moment)
  | timedOut reported =>
      exact .timedOut (same ▸ reported)
  | cancelled reported =>
      exact .cancelled (same ▸ reported)
  | rejected reported bad =>
      exact .rejected (same ▸ reported) bad
  | unread reported =>
      exact .unread (same ▸ reported)
  | read reached reported read =>
      exact .read (reached.concat moment) (same ▸ reported) (read.concat moment)

/-- A job that is told the outcome of its supervision goes on accordingly. -/
theorem account_afterChild
    (reached : job.HasStarted course) :
    job.Account course (job.afterChild (start.after (watched course))) := by
  unfold afterChild
  split
  next pending =>
    exact .running reached
  next status output errors reported =>
    unfold afterStatus
    split
    next good =>
      subst good
      exact .reading reached reported
    next bad =>
      exact .clearingInput (.rejected reported bad)
  next late =>
    exact .clearingInput (.timedOut late)
  next stopped =>
    exact .clearingInput (.cancelled stopped)

/-- Every event turns an account into one of the course so far. -/
theorem Account.step
    (account : job.Account course stage)
    (files : Files)
    (event : JobEvent) :
    job.Account (course ++ [⟨files, stage, event⟩]) (job.step (files, stage) event).2 := by
  cases account with
  | preparing unwatched =>
      have still : watched (course ++ [⟨files, .preparing, event⟩]) = [] :=
        (watched_concat_of_none rfl).trans unwatched
      cases event with
      | directory refusal =>
          cases refusal with
          | some fault =>
              exact .clearingInput (.refused _ _ still)
          | none =>
              cases verdict : files.makeDirectories job.directory with
              | error fault =>
                  simp only [Job.step, verdict, attempt]
                  exact .clearingInput (.refused _ _ still)
              | ok changed =>
                  simp only [Job.step, verdict, attempt]
                  exact .writing still ((Passes.directoryMade verdict).passed course)
      | _ =>
          exact .preparing still
  | writing unwatched made =>
      have still : watched (course ++ [⟨files, .writing, event⟩]) = [] :=
        (watched_concat_of_none rfl).trans unwatched
      cases event with
      | input =>
          cases verdict : files.write job.input job.source.utf8 with
          | error fault =>
              simp only [Job.step, verdict, attempt]
              exact .clearingInput (.refused _ _ still)
          | ok changed =>
              simp only [Job.step, verdict, attempt]
              exact .launching still (made.concat _)
                ((Passes.inputWritten verdict).passed course)
      | inputRefused fault left =>
          exact .clearingInput (.refused _ _ still)
      | _ =>
          exact .writing still (made.concat _)
  | launching unwatched made written =>
      have still : watched (course ++ [⟨files, .launching, event⟩]) = [] :=
        (watched_concat_of_none rfl).trans unwatched
      cases event with
      | launch launch =>
          cases launch with
          | started =>
              have reached :
                  job.HasStarted (course ++ [⟨files, .launching, .launch .started⟩]) :=
                { made := made.concat _
                  written := written.concat _
                  started := (Passes.commandStarted files).passed course }
              have begun := Account.running reached
              rw [still] at begun
              exact begun
          | missing =>
              exact .clearingInput (.missing still)
          | refused fault path =>
              exact .clearingInput (.refused _ _ still)
      | launchCancelled =>
          exact .clearingInput
            (.startCancelled still ((Passes.startCancelled files).passed course))
      | _ =>
          exact .launching still (made.concat _) (written.concat _)
  | running reached =>
      -- What the supervision sees it takes in; after anything else it goes on as it is.
      have goesOn
          (unseen :
            Moment.childEvent?
              ⟨files, .running (start.after (watched course)), event⟩ = none) :
          job.Account
            (course ++ [⟨files, .running (start.after (watched course)), event⟩])
            (.running (start.after (watched course))) := by
        have further := Account.running (reached.concat
          ⟨files, .running (start.after (watched course)), event⟩)
        rw [watched_concat_of_none unseen] at further
        exact further
      cases event with
      | child event =>
          have told := account_afterChild (reached.concat
            ⟨files, .running (start.after (watched course)), .child event⟩)
          rw [watched_concat_child, Supervision.after_concat] at told
          exact told
      | acts change =>
          unfold Job.step
          dsimp only
          split <;>
            exact goesOn rfl
      | _ =>
          exact goesOn rfl
  | @reading output errors reached reported =>
      have told :
          (start.after (watched (course ++ [⟨files, .reading, event⟩]))).outcome? =
            some (.finished 0 output errors) := by
        rw [watched_concat_of_none rfl]
        exact reported
      cases event with
      | output refused =>
          cases refused with
          | true =>
              exact .clearingInput (.unread told)
          | false =>
              cases verdict : files.read job.output with
              | error fault =>
                  simp only [Job.step, verdict]
                  exact .clearingInput (.unread told)
              | ok content =>
                  simp only [Job.step, verdict]
                  exact .clearingInput (.read (reached.concat _) told
                    ((Passes.documentRead verdict).passed course))
      | _ =>
          exact .reading (reached.concat _) told
  | clearingInput explained =>
      cases event with
      | cleared refused =>
          exact .clearingOutput (explained.concat rfl)
      | _ =>
          exact .clearingInput (explained.concat rfl)
  | clearingOutput explained =>
      cases event with
      | cleared refused =>
          exact .over (explained.concat rfl)
      | _ =>
          exact .clearingOutput (explained.concat rfl)
  | «over» explained =>
      exact .over (explained.concat rfl)

/-- Whatever happens to a job, its stage is accounted for. -/
theorem account_after
    (job : Job)
    (files : Files)
    (events : List JobEvent) :
    job.Account (job.course (files, .preparing) events)
      (job.after (files, .preparing) events).2 := by
  induction events using List.reverseRecOn with
  | nil =>
      exact .preparing rfl
  | append_singleton events event account =>
      rw [course_concat, after_concat]
      exact account.step _ event

/-! ### What the outcome says -/

/-- Whether the outcome of a job passes on what the supervision has reported. -/
structure PassesOn (job : Job) (reported : ChildOutcome) (outcome : JobOutcome) : Prop where
  timedOut :
    outcome = .failed (.timedOut job.compiler.timeout) ↔ reported = .timedOut
  cancelled :
    outcome = .cancelled ↔ reported = .cancelled
  rejected (status : Int) (output errors : Bytes) :
    reported = .finished status output errors →
      status ≠ 0 →
        outcome = .failed (.diagnosed status (streamText output) (streamText errors))

/-- A command was not watched at all, or its supervision has come to an outcome. -/
theorem Explained.unwatched_or_passesOn
    (explained : job.Explained course outcome) :
    (watched course = [] ∧
      (∀ timeout, outcome ≠ .failed (.timedOut timeout)) ∧
        (outcome = .cancelled → job.Passed course .startCancelled)) ∨
      ∃ reported,
        (start.after (watched course)).outcome? = some reported ∧
          job.PassesOn reported outcome := by
  cases explained with
  | refused fault path unwatched =>
      exact .inl ⟨unwatched, nofun, nofun⟩
  | missing unwatched =>
      refine .inl ⟨unwatched, fun timeout same => ?_, nofun⟩
      exact CompileFault.diagnosed_ne_timedOut timeout (JobOutcome.failed.inj same)
  | startCancelled unwatched passed =>
      exact .inl ⟨unwatched, nofun, fun _ => passed⟩
  | timedOut reported =>
      exact .inr ⟨_, reported, by simp, by simp, nofun⟩
  | cancelled reported =>
      exact .inr ⟨_, reported, by simp, by simp, nofun⟩
  | rejected reported bad =>
      refine .inr ⟨_, reported, ?_, by simp, ?_⟩
      · simp [CompileFault.diagnosed_ne_timedOut]
      · rintro status output errors ⟨⟩ -
        rfl
  | unread reported =>
      refine .inr ⟨_, reported, by simp, by simp, ?_⟩
      rintro status output errors ⟨⟩ bad
      exact absurd rfl bad
  | read reached reported read =>
      refine .inr ⟨_, reported, by simp, by simp, ?_⟩
      rintro status output errors ⟨⟩ bad
      exact absurd rfl bad

/-- What a job fails with unless it is late says something. -/
theorem Explained.exists_fault
    (explained : job.Explained course outcome)
    (noDocument : ∀ content, outcome ≠ .document content)
    (inTime : outcome ≠ .failed (.timedOut job.compiler.timeout))
    (notCancelled : outcome ≠ .cancelled) :
    ∃ fault,
      outcome = .failed fault ∧ (∀ timeout, fault ≠ .timedOut timeout) ∧
        fault.message ≠ [] := by
  cases explained with
  | refused fault path unwatched =>
      exact ⟨_, rfl, nofun, nofun⟩
  | missing unwatched =>
      exact ⟨_, rfl, CompileFault.diagnosed_ne_timedOut,
        CompileFault.message_diagnosed_ne_nil⟩
  | startCancelled unwatched passed =>
      exact absurd rfl notCancelled
  | timedOut reported =>
      exact absurd rfl inTime
  | cancelled reported =>
      exact absurd rfl notCancelled
  | rejected reported bad =>
      exact ⟨_, rfl, CompileFault.diagnosed_ne_timedOut,
        CompileFault.message_diagnosed_ne_nil⟩
  | unread reported =>
      exact ⟨_, rfl, nofun, nofun⟩
  | read reached reported read =>
      exact absurd rfl (noDocument _)

/-- Nothing has interrupted what was not watched. -/
theorem isQuiet_of_unwatched
    (unwatched : watched course = []) :
    IsQuiet (watched course) := by
  rw [unwatched]
  exact isQuiet_nil

theorem Explained.timedOut_iff
    (explained : job.Explained course outcome) :
    outcome = .failed (.timedOut job.compiler.timeout) ↔
      IsInterruptedBy .expires (watched course) ∧ ¬ IsCutShort (watched course) := by
  rcases explained.unwatched_or_passesOn with
    ⟨unwatched, inTime, -⟩ | ⟨reported, reached, passesOn⟩
  · have quiet := isQuiet_of_unwatched unwatched
    exact iff_of_false (inTime _)
      fun late => quiet.not_isInterruptedBy (.inl rfl) late.1
  · rw [passesOn.timedOut, (tells_of_outcome? reached).timedOut]

/-- Unless its start was cancelled, a job is cancelled exactly if its supervision is. -/
theorem Explained.cancelled_iff
    (explained : job.Explained course outcome)
    (unstarted : job.Passed course .startCancelled → outcome = .cancelled) :
    outcome = .cancelled ↔
      job.Passed course .startCancelled ∨
        IsInterruptedBy .cancelled (watched course) ∨ IsCutShort (watched course) := by
  rcases explained.unwatched_or_passesOn with
    ⟨unwatched, -, passed⟩ | ⟨reported, reached, passesOn⟩
  · have quiet := isQuiet_of_unwatched unwatched
    have uninterrupted := quiet.not_isInterruptedBy (.inr rfl)
    constructor
    · exact fun stopped => .inl (passed stopped)
    · rintro (cancelled | interrupted | cut)
      · exact unstarted cancelled
      · exact absurd interrupted uninterrupted
      · exact absurd cut quiet.not_isCutShort
  · rw [← (tells_of_outcome? reached).cancelled, passesOn.cancelled]
    refine ⟨.inr, ?_⟩
    rintro (cancelled | stopped)
    · exact passesOn.cancelled.mp (unstarted cancelled)
    · exact stopped

theorem Explained.exists_rejected
    {status : Int}
    {output errors : Bytes}
    (explained : job.Explained course outcome)
    (finishes : FinishesAs status output errors (watched course))
    (bad : status ≠ 0) :
    ∃ fault,
      outcome = .failed fault ∧ (∀ timeout, fault ≠ .timedOut timeout) ∧
        fault.message = diagnosis status (streamText output) (streamText errors) := by
  have finished := outcome?_of_finishesAs finishes
  rcases explained.unwatched_or_passesOn with
    ⟨unwatched, -⟩ | ⟨reported, reached, passesOn⟩
  · rw [unwatched] at finished
    cases finished
  · cases finished.symm.trans reached
    exact ⟨_, passesOn.rejected _ _ _ rfl bad, CompileFault.diagnosed_ne_timedOut,
      CompileFault.message_diagnosed⟩

/-- An explained outcome says what it should if no moment has decided otherwise. -/
theorem Explained.endsAs
    (explained : job.Explained course outcome)
    (only : ∀ moment ∈ course, ∀ other, job.Decides moment other → outcome = other) :
    job.EndsAs course outcome where
  document content := by
    constructor
    · rintro rfl
      cases explained with
      | read reached reported read =>
          exact ⟨reached, ⟨_, _, outcome?_eq_finished_iff.mp reported⟩, read⟩
    · rintro ⟨-, -, moment, member, passes⟩
      exact only moment member _ passes.decides_document
  timedOut := explained.timedOut_iff
  timedOut_of_not_cancelled := by
    intro none
    have whole : ¬ IsCutShort (watched course) := by
      rintro ⟨before, after, split, -⟩
      exact none (by simp [split])
    rw [explained.timedOut_iff, and_iff_left whole]
  cancelled := by
    apply explained.cancelled_iff
    rintro ⟨moment, member, passes⟩
    exact only moment member _ passes.decides_cancelled
  failed := explained.exists_fault
  rejected _ _ _ finishes bad := explained.exists_rejected finishes bad
  missing := by
    rintro ⟨moment, member, passes⟩
    exact only moment member _ passes.decides_missing

/--
A job that never waits in vain is over at some time, and every job that is over has come to
the outcome that its course calls for.
-/
theorem ends_as_documented
    (job : Job)
    (files : Files) :
    (∀ events : Nat → JobEvent,
      job.IsServed files events →
        ∃ time outcome, outcome? (job.reached files events time).2 = some outcome) ∧
      ∀ (events : List JobEvent) (outcome : JobOutcome),
        outcome? (job.after (files, .preparing) events).2 = some outcome →
          job.EndsAs (job.course (files, .preparing) events) outcome := by
  refine ⟨fun events served => over_of_isServed served, ?_⟩
  intro events outcome ended
  have account := account_after job files events
  generalize final : (job.after (files, .preparing) events).2 = stage at account ended
  cases account with
  | «over» explained =>
      cases ended
      apply explained.endsAs
      intro moment member other decides
      have decided := decided?_of_mem_course member decides
      rw [final] at decided
      exact Option.some.inj decided
  | _ =>
      cases ended

/-- What happens to the late job if it is cancelled before its killed command has ended. -/
def cutShortEvents : List JobEvent := [
  .directory none,
  .input,
  .launch .started,
  .child .expires,
  .child .cancelled,
  .cleared false,
  .cleared false]

/-- The time of the late job was up, and its outcome is no timeout but a cancellation. -/
theorem cancelled_although_expired :
    IsInterruptedBy .expires
        (watched (lateJob.course (besideJob, .preparing) cutShortEvents)) ∧
      outcome? (lateJob.after (besideJob, .preparing) cutShortEvents).2 =
        some .cancelled := by
  refine ⟨⟨[], [.cancelled], rfl, isQuiet_nil, ?_⟩, rfl⟩
  rintro ⟨-, output, errors, member⟩
  cases member

end Job

end ContractTemplates
