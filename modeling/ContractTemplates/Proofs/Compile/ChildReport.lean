import ContractTemplates.Proofs.Compile.ChildWaited

namespace ContractTemplates

/-!
# What is reported of a child

As long as nothing interrupts the watching, a supervision is what a search through the events
so far gives: the first end of the child, whether it was reaped since, and what the streams
contained when they first came to their end, `Supervision.exists_after_of_isQuiet`. A child is
therefore reported to have finished exactly if all of this has happened before anything has
interrupted the watching, `Supervision.outcome?_eq_finished_iff`.

`ChildOutcome.Tells` collects what each outcome of a supervision says about its events.
-/

namespace ChildEvent

/-- The status with which a child ends by itself in an event. -/
def status? : ChildEvent → Option Int
  | exits status => some status
  | _ => none

/-- What the streams contained if they come to their end in an event. -/
def contents? : ChildEvent → Option (Bytes × Bytes)
  | closes output errors => some (output, errors)
  | _ => none

/-- The status with which a child has ended by itself. -/
def exitStatus? (events : List ChildEvent) : Option Int :=
  events.findSome? status?

/-- What the streams have contained. -/
def streamed? (events : List ChildEvent) : Option (Bytes × Bytes) :=
  events.findSome? contents?

/-- Whether a child has finished before anything has interrupted the watching. -/
def FinishesAs (status : Int) (output errors : Bytes) (events : List ChildEvent) : Prop :=
  ∃ before after,
    events = before ++ after ∧ IsQuiet before ∧ IsReaped before ∧
      exitStatus? before = some status ∧ streamed? before = some (output, errors)

variable
  {event : ChildEvent}
  {events : List ChildEvent}

theorem exitStatus?_concat :
    exitStatus? (events ++ [event]) = (exitStatus? events).or event.status? := by
  simp [exitStatus?, List.findSome?_append]

theorem streamed?_concat :
    streamed? (events ++ [event]) = (streamed? events).or event.contents? := by
  simp [streamed?, List.findSome?_append]

theorem HasExited.exists_exitStatus?
    (exited : HasExited events) :
    ∃ status, exitStatus? events = some status := by
  obtain ⟨status, member⟩ := exited
  rw [← Option.isSome_iff_exists, exitStatus?, List.findSome?_isSome_iff]
  exact ⟨_, member, rfl⟩

theorem HasClosed.exists_streamed?
    (closed : HasClosed events) :
    ∃ output errors, streamed? events = some (output, errors) := by
  obtain ⟨output, errors, member⟩ := closed
  have found : (streamed? events).isSome := by
    rw [streamed?, List.findSome?_isSome_iff]
    exact ⟨_, member, rfl⟩
  obtain ⟨⟨output, errors⟩, same⟩ := Option.isSome_iff_exists.mp found
  exact ⟨output, errors, same⟩

/-- What nothing interrupts either stays quiet or is done before it stops being quiet. -/
theorem isQuiet_or_isDone
    (noExpiry : ¬ IsInterruptedBy .expires events)
    (noCancellation : ¬ IsInterruptedBy .cancelled events) :
    IsQuiet events ∨
      ∃ before after, events = before ++ after ∧ IsQuiet before ∧ IsDone before := by
  induction events using List.reverseRecOn with
  | nil =>
      exact .inl isQuiet_nil
  | append_singleton events last inductionHypothesis =>
      simp only [isInterruptedBy_concat, not_or, not_and, not_not] at noExpiry noCancellation
      rcases inductionHypothesis noExpiry.1 noCancellation.1 with
        quiet | ⟨before, after, rfl, quiet, done⟩
      · by_cases interrupts : last.IsInterruption
        · have done : IsDone events := by
            rcases interrupts with expires | cancelled
            · exact noExpiry.2 expires quiet
            · exact noCancellation.2 cancelled quiet
          exact .inr ⟨events, [last], rfl, quiet, done⟩
        · exact .inl (isQuiet_concat.mpr ⟨quiet, interrupts⟩)
      · exact .inr ⟨before, after ++ [last], List.append_assoc .., quiet, done⟩

end ChildEvent

open ChildEvent

variable
  {event : ChildEvent}
  {events : List ChildEvent}
  {child : Child}
  {status : Int}
  {output errors : Bytes}
  {outcome : ChildOutcome}

namespace Child

/-- What an event makes of a child that is being watched. -/
def meet (event : ChildEvent) (child : Child) : Child :=
  match event with
  | .exits status => child.exit status
  | .reaped => child.reap
  | _ => child

/-- Whether a child that is being watched is exactly as the events have left it. -/
def Matches (events : List ChildEvent) : Child → Prop
  | running => exitStatus? events = none
  | dead status => exitStatus? events = some status ∧ ¬ IsReaped events
  | reaped status => exitStatus? events = some status ∧ IsReaped events

theorem Matches.hasExited_iff
    (same : child.Matches events) :
    HasExited events ↔ child ≠ .running := by
  constructor
  · rintro exited rfl
    obtain ⟨status, found⟩ := exited.exists_exitStatus?
    cases found.symm.trans same
  · intro ended
    obtain ⟨status, found⟩ : ∃ status, exitStatus? events = some status := by
      cases child with
      | running => exact absurd rfl ended
      | dead status => exact ⟨status, same.1⟩
      | reaped status => exact ⟨status, same.1⟩
    obtain ⟨event, member, ends⟩ := List.exists_of_findSome?_eq_some found
    cases event with
    | exits status => exact ⟨status, member⟩
    | _ => cases ends

/-- An event leaves a child as all events together do. -/
theorem Matches.meet
    (same : child.Matches events)
    (event : ChildEvent) :
    (child.meet event).Matches (events ++ [event]) := by
  have exited := same.hasExited_iff
  cases child with
  | running =>
      have unseen : ¬ IsReaped events :=
        fun reaped => exited.mp reaped.hasExited rfl
      have none : exitStatus? events = .none := same
      have pending : ¬ HasExited events := fun has => exited.mp has rfl
      cases event <;>
        simp [Child.meet, Child.exit, Child.reap, Matches, exitStatus?_concat, none,
          status?, isReaped_concat, unseen, pending]
  | dead earlier =>
      have has : HasExited events := exited.mpr (by simp)
      cases event <;>
        simp [Child.meet, Child.exit, Child.reap, Matches, exitStatus?_concat, same.1,
          isReaped_concat, same.2, has]
  | reaped earlier =>
      cases event <;>
        simp [Child.meet, Child.exit, Child.reap, Matches, exitStatus?_concat, same.1,
          isReaped_concat, same.2]

/-- A child that has ended and was reaped was reaped with the status of its end. -/
theorem Matches.eq_reaped
    (same : child.Matches events)
    (ended : exitStatus? events = some status)
    (reaped : IsReaped events) :
    child = .reaped status := by
  cases child with
  | running =>
      cases ended.symm.trans same
  | dead earlier =>
      exact absurd reaped same.2
  | reaped earlier =>
      rw [Option.some.inj (same.1.symm.trans ended)]

end Child

namespace Supervision

variable {supervision : Supervision}

theorem after_concat
    (supervision : Supervision)
    (events : List ChildEvent)
    (event : ChildEvent) :
    supervision.after (events ++ [event]) = (supervision.after events).step event := by
  simp [after]

/-- Nothing happens any more to a supervision that has come to an outcome. -/
theorem after_of_outcome?
    (reached : supervision.outcome? = some outcome)
    (events : List ChildEvent) :
    supervision.after events = supervision := by
  obtain ⟨child, streams, stage⟩ := supervision
  cases stage with
  | «over» earlier =>
      induction events with
      | nil =>
          rfl
      | cons event rest inductionHypothesis =>
          exact inductionHypothesis
  | watching =>
      cases reached
  | stopping earlier =>
      cases reached

/-- A quiet event is met by the child and by the streams, and may settle the rest. -/
theorem step_settle
    (quiet : ¬ event.IsInterruption)
    (child : Child)
    (streams : Option (Bytes × Bytes)) :
    (settle ⟨child, streams, .watching⟩).step event =
      settle ⟨child.meet event, streams.or event.contents?, .watching⟩ := by
  cases event with
  | expires =>
      exact absurd (.inl rfl) quiet
  | cancelled =>
      exact absurd (.inr rfl) quiet
  | exits status =>
      cases child <;> cases streams <;>
        rfl
  | reaped =>
      cases child <;> cases streams <;>
        rfl
  | answered =>
      cases child <;> cases streams <;>
        rfl
  | closes output errors =>
      cases child <;> cases streams <;>
        rfl

/-- As long as nothing interrupts it, a supervision is what the events so far have brought. -/
theorem exists_after_of_isQuiet
    (quiet : IsQuiet events) :
    ∃ child : Child,
      child.Matches events ∧
        start.after events = settle ⟨child, streamed? events, .watching⟩ := by
  induction events using List.reverseRecOn with
  | nil =>
      exact ⟨.running, rfl, rfl⟩
  | append_singleton events last inductionHypothesis =>
      obtain ⟨earlier, still⟩ := isQuiet_concat.mp quiet
      obtain ⟨child, same, reached⟩ := inductionHypothesis earlier
      refine ⟨child.meet last, same.meet last, ?_⟩
      rw [after_concat, reached, step_settle still, streamed?_concat]

/-- A child that has finished is reported with its own status and its own streams. -/
theorem outcome?_of_finishesAs
    (finishes : FinishesAs status output errors events) :
    (start.after events).outcome? = some (.finished status output errors) := by
  obtain ⟨before, rest, rfl, quiet, reaped, ended, closed⟩ := finishes
  obtain ⟨child, same, reached⟩ := exists_after_of_isQuiet quiet
  have finished :
      (start.after before).outcome? = some (.finished status output errors) := by
    rw [reached, closed, same.eq_reaped ended reaped]
    rfl
  have parts : start.after (before ++ rest) = (start.after before).after rest :=
    List.foldl_append
  rw [parts, after_of_outcome? finished]
  exact finished

/-- An outcome is due to what has happened, or the last wait was cut short. -/
theorem isDue_or_isCutShort
    (reached : (start.after events).outcome? = some outcome) :
    (outcome.IsDue events ∧ (IsQuiet events → IsDone events) ∧ ¬ IsCutShort events) ∨
      (outcome = .cancelled ∧ IsCutShort events) := by
  have account := account_after events
  generalize start.after events = supervision at account reached
  cases account with
  | watching | stopping =>
      cases reached
  | ended due report settled answered whole =>
      cases reached
      exact .inl ⟨due, settled, whole⟩
  | cutShort cut =>
      cases reached
      exact .inr ⟨rfl, cut⟩

/-- A child is reported to have finished exactly if it has. -/
theorem outcome?_eq_finished_iff :
    (start.after events).outcome? = some (.finished status output errors) ↔
      FinishesAs status output errors events := by
  refine ⟨fun reported => ?_, outcome?_of_finishesAs⟩
  -- A report is due to no interruption, so the child was done while the events were quiet.
  obtain ⟨before, rest, rfl, quiet, reaped, closed⟩ :
      ∃ before rest, events = before ++ rest ∧ IsQuiet before ∧ IsDone before := by
    rcases isDue_or_isCutShort reported with ⟨due, settled, -⟩ | ⟨other, -⟩
    · rcases isQuiet_or_isDone (due.timedOut.not.mpr nofun) (due.cancelled.not.mpr nofun)
        with quiet | split
      · exact ⟨events, [], (List.append_nil _).symm, quiet, settled quiet⟩
      · exact split
    · cases other
  obtain ⟨earlier, ended⟩ := reaped.hasExited.exists_exitStatus?
  obtain ⟨first, second, streamed⟩ := closed.exists_streamed?
  have finishes : FinishesAs earlier first second (before ++ rest) :=
    ⟨before, rest, rfl, quiet, reaped, ended, streamed⟩
  cases (outcome?_of_finishesAs finishes).symm.trans reported
  exact finishes

end Supervision

/-- What an outcome of a supervision says about the events. -/
structure ChildOutcome.Tells (events : List ChildEvent) (outcome : ChildOutcome) : Prop where
  timedOut : outcome = .timedOut ↔ IsInterruptedBy .expires events ∧ ¬ IsCutShort events
  cancelled : outcome = .cancelled ↔ IsInterruptedBy .cancelled events ∨ IsCutShort events
  finished (status : Int) (output errors : Bytes) :
    outcome = .finished status output errors ↔ FinishesAs status output errors events

/-- Every outcome tells what has happened. -/
theorem Supervision.tells_of_outcome?
    (reached : (start.after events).outcome? = some outcome) :
    outcome.Tells events := by
  have finished (status : Int) (output errors : Bytes) :
      outcome = .finished status output errors ↔
        FinishesAs status output errors events := by
    rw [← outcome?_eq_finished_iff, reached, Option.some.injEq]
  rcases isDue_or_isCutShort reached with ⟨due, -, whole⟩ | ⟨rfl, cut⟩
  · refine ⟨?_, ?_, finished⟩
    · rw [due.timedOut, and_iff_left whole]
    · rw [due.cancelled, or_iff_left whole]
  · exact ⟨by simp [cut], by simp [cut], finished⟩

end ContractTemplates
