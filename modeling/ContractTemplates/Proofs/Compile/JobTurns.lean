import ContractTemplates.Proofs.Compile.JobCourse

namespace ContractTemplates

/-!
# How a job comes to its end

A job waits for at most eight things, one after another: for its directory, for its input, for
the start of the command, for the end of the time and then for the answer to the wait for the
killed command, for the document, and for the removal of its two files. `JobStage.turn` counts how many of
them are behind a stage. No event leads back, `Job.turn_le_step`, and what a job waits for
leads on, `Job.turn_lt_step`. In every stage but the last there is something to wait for,
`Job.exists_answers`, and a job that never waits in vain is over at some time,
`Job.over_of_isServed`.
-/

/-- How many of the eight things that a job may wait for are behind it. -/
def JobStage.turn : JobStage → Nat
  | .preparing => 0
  | .writing => 1
  | .launching => 2
  | .running supervision => if supervision.stage = .watching then 3 else 4
  | .reading => 5
  | .clearingInput _ => 6
  | .clearingOutput _ => 7
  | .over _ => 8

/-- Whether an event is what a job waits for in a stage. -/
inductive JobEvent.Answers : JobStage → JobEvent → Prop where
  | directory (refusal : Option FileFault) :
      Answers .preparing (.directory refusal)
  | input :
      Answers .writing .input
  | inputRefused (fault : FileFault) (left : Option Bytes) :
      Answers .writing (.inputRefused fault left)
  | launch (launch : Launch) :
      Answers .launching (.launch launch)
  | launchCancelled :
      Answers .launching .launchCancelled
  /-- The time is up at the latest when the command has not finished before. -/
  | expires {supervision : Supervision}
      (watching : supervision.stage = .watching) :
      Answers (.running supervision) (.child .expires)
  /-- No timeout bounds this wait: whoever has the streams open can draw it out. -/
  | answered {supervision : Supervision}
      (past : supervision.stage ≠ .watching) :
      Answers (.running supervision) (.child .answered)
  | output (refused : Bool) :
      Answers .reading (.output refused)
  | clearedInput (outcome : JobOutcome) (refused : Bool) :
      Answers (.clearingInput outcome) (.cleared refused)
  | clearedOutput (outcome : JobOutcome) (refused : Bool) :
      Answers (.clearingOutput outcome) (.cleared refused)

namespace Supervision

variable {supervision : Supervision}

/-- A supervision that does not watch any more does not begin to watch again. -/
theorem stage_settle_ne_watching
    (past : supervision.stage ≠ .watching) :
    supervision.settle.stage ≠ .watching := by
  unfold settle
  split
  · exact nofun
  · exact past

theorem stage_stop_ne_watching
    (outcome : ChildOutcome)
    (supervision : Supervision) :
    (supervision.stop outcome).stage ≠ .watching := by
  unfold stop
  split <;>
    exact nofun

theorem stage_step_ne_watching
    (past : supervision.stage ≠ .watching)
    (event : ChildEvent) :
    (supervision.step event).stage ≠ .watching := by
  obtain ⟨child, streams, stage⟩ := supervision
  cases stage with
  | watching =>
      exact absurd rfl past
  | stopping outcome =>
      cases event with
      | reaped =>
          exact stage_settle_ne_watching nofun
      | _ =>
          exact nofun
  | «over» outcome =>
      exact nofun

/-- The end of the time ends the watching. -/
theorem stage_step_expires_ne_watching
    (supervision : Supervision) :
    (supervision.step .expires).stage ≠ .watching := by
  obtain ⟨child, streams, stage⟩ := supervision
  cases stage with
  | watching =>
      exact stage_stop_ne_watching _ _
  | _ =>
      exact nofun

/-- A supervision that only waits for the end of its child is over when the wait is answered. -/
theorem outcome?_step_answered
    (past : supervision.stage ≠ .watching) :
    (supervision.step .answered).outcome? ≠ none := by
  obtain ⟨child, streams, stage⟩ := supervision
  cases stage with
  | watching =>
      exact absurd rfl past
  | stopping outcome =>
      exact nofun
  | «over» outcome =>
      exact nofun

end Supervision

namespace Job

variable
  {job : Job}
  {files : Files}
  {stage next : JobStage}
  {event : JobEvent}
  {supervision : Supervision}

theorem le_turn_attempt
    {turn : Nat}
    (onward : turn ≤ next.turn)
    (early : turn ≤ 6)
    (path : Path)
    (files : Files)
    (result : Except FileFault Files) :
    turn ≤ (attempt path next files result).2.turn := by
  cases result with
  | ok changed =>
      exact onward
  | error fault =>
      exact early

theorem le_turn_afterStatus
    (status : Int)
    (output errors : Text) :
    5 ≤ (afterStatus status output errors).turn := by
  unfold afterStatus
  split <;>
    simp [fail, JobStage.turn]

/-- A job whose supervision has come to an outcome has left its command behind. -/
theorem le_turn_afterChild
    (reached : supervision.outcome? ≠ none) :
    5 ≤ (job.afterChild supervision).turn := by
  unfold afterChild
  split
  · contradiction
  · exact le_turn_afterStatus ..
  · simp [fail, JobStage.turn]
  · simp [JobStage.turn]

theorem turn_running_le :
    (JobStage.running supervision).turn ≤ 4 := by
  show (if supervision.stage = .watching then 3 else 4) ≤ 4
  split <;>
    decide

/-- A job is at least as far as the supervision of its command. -/
theorem turn_running_le_afterChild :
    (JobStage.running supervision).turn ≤ (job.afterChild supervision).turn := by
  by_cases reached : supervision.outcome? = none
  · have goesOn : job.afterChild supervision = .running supervision := by
      unfold afterChild
      rw [reached]
    exact Nat.le_of_eq (congrArg JobStage.turn goesOn.symm)
  · calc
      (JobStage.running supervision).turn ≤ 4 := turn_running_le
      _ ≤ 5 := Nat.le_succ 4
      _ ≤ (job.afterChild supervision).turn := le_turn_afterChild reached

theorem turn_running_of_ne_watching
    (past : supervision.stage ≠ .watching) :
    (JobStage.running supervision).turn = 4 :=
  if_neg past

theorem turn_running_mono
    (event : ChildEvent) :
    (JobStage.running supervision).turn ≤
      (JobStage.running (supervision.step event)).turn := by
  by_cases watching : supervision.stage = .watching
  · simp only [JobStage.turn, watching, if_true]
    split <;>
      omega
  · have past := Supervision.stage_step_ne_watching watching event
    exact Nat.le_of_eq
      ((turn_running_of_ne_watching watching).trans
        (turn_running_of_ne_watching past).symm)

/-- No event leads a job back. -/
theorem turn_le_step
    (job : Job)
    (files : Files)
    (stage : JobStage)
    (event : JobEvent) :
    stage.turn ≤ (job.step (files, stage) event).2.turn := by
  cases stage with
  | preparing =>
      exact Nat.zero_le _
  | writing =>
      cases event with
      | input =>
          exact le_turn_attempt (Nat.le_succ 1) (by decide) _ _ _
      | inputRefused fault left =>
          simp [step, fail, JobStage.turn]
      | _ =>
          exact Nat.le_refl _
  | launching =>
      cases event with
      | launch launch =>
          cases launch with
          | missing =>
              exact Nat.le_trans (by decide : 2 ≤ 5)
                (le_turn_afterStatus missingStatus [] (missingText job.command))
          | _ =>
              simp [step, fail, JobStage.turn, Supervision.start]
      | launchCancelled =>
          simp [step, JobStage.turn]
      | _ =>
          exact Nat.le_refl _
  | running supervision =>
      cases event with
      | acts change =>
          unfold step
          dsimp only
          split <;>
            exact Nat.le_refl _
      | child event =>
          exact Nat.le_trans (turn_running_mono event) turn_running_le_afterChild
      | _ =>
          exact Nat.le_refl _
  | reading =>
      cases event with
      | output refused =>
          unfold step
          dsimp only
          split <;>
            simp [fail, JobStage.turn]
      | _ =>
          exact Nat.le_refl _
  | clearingInput outcome =>
      cases event with
      | cleared refused =>
          exact Nat.le_succ 6
      | _ =>
          exact Nat.le_refl _
  | clearingOutput outcome =>
      cases event with
      | cleared refused =>
          exact Nat.le_succ 7
      | _ =>
          exact Nat.le_refl _
  | «over» outcome =>
      exact Nat.le_refl _

/-- What a job waits for leads it on. -/
theorem turn_lt_step
    (answers : event.Answers stage)
    (job : Job)
    (files : Files) :
    stage.turn < (job.step (files, stage) event).2.turn := by
  cases answers with
  | directory refusal =>
      exact le_turn_attempt (Nat.le_refl 1) (by decide) _ _ _
  | input =>
      exact le_turn_attempt (Nat.le_refl 2) (by decide) _ _ _
  | inputRefused fault left =>
      simp [step, fail, JobStage.turn]
  | launch launch =>
      cases launch with
      | missing =>
          exact Nat.lt_of_lt_of_le (by decide : 2 < 5)
            (le_turn_afterStatus missingStatus [] (missingText job.command))
      | _ =>
          simp [step, fail, JobStage.turn, Supervision.start]
  | launchCancelled =>
      simp [step, JobStage.turn]
  | @expires supervision watching =>
      calc
        (JobStage.running supervision).turn = 3 := if_pos watching
        _ < 4 := by decide
        _ = (JobStage.running (supervision.step .expires)).turn :=
          (turn_running_of_ne_watching supervision.stage_step_expires_ne_watching).symm
        _ ≤ (job.afterChild (supervision.step .expires)).turn :=
          turn_running_le_afterChild
  | @answered supervision past =>
      calc
        (JobStage.running supervision).turn ≤ 4 := turn_running_le
        _ < 5 := by decide
        _ ≤ (job.afterChild (supervision.step .answered)).turn :=
          le_turn_afterChild (Supervision.outcome?_step_answered past)
  | output refused =>
      unfold step
      dsimp only
      split <;>
        simp [fail, JobStage.turn]
  | clearedInput outcome refused =>
      exact Nat.lt_succ_self 6
  | clearedOutput outcome refused =>
      exact Nat.lt_succ_self 7

/-- As long as a job is not over, it waits for something that can happen. -/
theorem exists_answers
    (pending : outcome? stage = none) :
    ∃ event : JobEvent, event.Answers stage := by
  cases stage with
  | preparing => exact ⟨_, .directory none⟩
  | writing => exact ⟨_, .input⟩
  | launching => exact ⟨_, .launch .started⟩
  | running supervision =>
      by_cases watching : supervision.stage = .watching
      · exact ⟨_, .expires watching⟩
      · exact ⟨_, .answered watching⟩
  | reading => exact ⟨_, .output false⟩
  | clearingInput outcome => exact ⟨_, .clearedInput outcome false⟩
  | clearingOutput outcome => exact ⟨_, .clearedOutput outcome false⟩
  | «over» outcome => cases pending

theorem over_of_turn
    (far : 8 ≤ stage.turn) :
    ∃ outcome, outcome? stage = some outcome := by
  cases stage with
  | «over» outcome =>
      exact ⟨outcome, rfl⟩
  | running supervision =>
      exact absurd (Nat.le_trans far turn_running_le) (by decide)
  | _ =>
      simp [JobStage.turn] at far

/-! ### Endless sequences of events -/

/-- The files and the stage of a job after some of an endless sequence of events. -/
def reached (job : Job) (files : Files) (events : Nat → JobEvent) (time : Nat) :
    Files × JobStage :=
  job.after (files, .preparing) ((List.range time).map events)

/--
Whether a job that is not over never waits in vain. Its command is given up when the time is
up, but the wait for the killed command lasts as long as a process in the background has the
streams of the command open. It is the one wait for the command that no timeout bounds, so a
job is not served if such a process goes on for ever.
-/
def IsServed (job : Job) (files : Files) (events : Nat → JobEvent) : Prop :=
  ∀ time,
    outcome? (job.reached files events time).2 = none →
      ∃ later ≥ time, (events later).Answers (job.reached files events later).2

variable {events : Nat → JobEvent}

theorem reached_succ
    (job : Job)
    (files : Files)
    (events : Nat → JobEvent)
    (time : Nat) :
    job.reached files events (time + 1) =
      job.step (job.reached files events time) (events time) := by
  unfold reached
  rw [List.range_succ, List.map_append]
  exact job.after_concat _ _ _

theorem turn_reached_mono
    {time later : Nat}
    (order : time ≤ later) :
    (job.reached files events time).2.turn ≤ (job.reached files events later).2.turn := by
  induction order with
  | refl =>
      exact Nat.le_refl _
  | step order inductionHypothesis =>
      rw [reached_succ]
      exact Nat.le_trans inductionHypothesis (turn_le_step job _ _ _)

/-- A job that never waits in vain comes as far as any job. -/
theorem IsServed.exists_le_turn
    (served : job.IsServed files events)
    {turn : Nat}
    (within : turn ≤ 8) :
    ∃ time, turn ≤ (job.reached files events time).2.turn := by
  induction turn with
  | zero =>
      exact ⟨0, Nat.zero_le _⟩
  | succ turn inductionHypothesis =>
      obtain ⟨time, far⟩ := inductionHypothesis (Nat.le_of_succ_le within)
      cases ended : outcome? (job.reached files events time).2 with
      | some outcome =>
          refine ⟨time, Nat.le_trans within ?_⟩
          generalize (job.reached files events time).2 = stage at ended
          cases stage with
          | «over» outcome =>
              exact Nat.le_refl 8
          | _ =>
              cases ended
      | none =>
          obtain ⟨later, order, answers⟩ := served time ended
          refine ⟨later + 1, ?_⟩
          calc
            turn + 1 ≤ (job.reached files events time).2.turn + 1 := Nat.succ_le_succ far
            _ ≤ (job.reached files events later).2.turn + 1 :=
              Nat.succ_le_succ (turn_reached_mono order)
            _ ≤ (job.reached files events (later + 1)).2.turn := by
              rw [reached_succ]
              exact turn_lt_step answers job _

/-- A job that never waits in vain is over at some time. -/
theorem over_of_isServed
    (served : job.IsServed files events) :
    ∃ time outcome, outcome? (job.reached files events time).2 = some outcome := by
  obtain ⟨time, far⟩ := served.exists_le_turn (Nat.le_refl 8)
  exact ⟨time, over_of_turn far⟩

end Job

end ContractTemplates
