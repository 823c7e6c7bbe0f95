import ContractTemplates.Compile.Supervision

namespace ContractTemplates

/-!
# The end of a child

A child is killed before its supervision stops watching it, so a supervision that does not
watch any more has no running child: `Supervision.IsSound`. Every event keeps it so, and
therefore no supervision comes to an outcome as long as its child is running,
`Supervision.outcome?_step_of_running`.
-/

namespace Child

theorem exit_ne_running
    (status : Int)
    (child : Child) :
    child.exit status ≠ .running := by
  cases child <;>
    exact nofun

theorem reap_eq_running_iff
    {child : Child} :
    child.reap = .running ↔ child = .running := by
  cases child <;>
    simp [reap]

end Child

namespace Supervision

/-- Whether the child is not running, unless it is being watched. -/
def IsSound (supervision : Supervision) : Prop :=
  supervision.stage ≠ .watching → supervision.child ≠ .running

variable {supervision : Supervision}

theorem isSound_start : start.IsSound :=
  fun past => absurd rfl past

theorem isSound_of_not_running
    (ended : supervision.child ≠ .running) :
    supervision.IsSound :=
  fun _ => ended

theorem isSound_of_watching
    (watching : supervision.stage = .watching) :
    supervision.IsSound :=
  fun past => absurd watching past

/-- A supervision whose child is running is not over: it settles nothing. -/
theorem settle_of_running
    (running : supervision.child = .running) :
    supervision.settle = supervision := by
  unfold settle
  rw [running]
  split
  · contradiction
  · rfl

theorem child_settle
    (supervision : Supervision) :
    supervision.settle.child = supervision.child := by
  unfold settle
  split <;>
    rfl

/-- Settling ends a supervision only with a child that was reaped. -/
theorem IsSound.settle
    (sound : supervision.IsSound) :
    supervision.settle.IsSound := by
  by_cases running : supervision.child = .running
  · rw [settle_of_running running]
    exact sound
  · apply isSound_of_not_running
    rw [child_settle]
    exact running

theorem isSound_stop
    (outcome : ChildOutcome)
    (supervision : Supervision) :
    (supervision.stop outcome).IsSound := by
  apply isSound_of_not_running
  unfold stop
  split
  · next status reaped =>
      rw [reaped]
      exact nofun
  · exact Child.exit_ne_running _ _

/-- Every event keeps a supervision sound. -/
theorem IsSound.step
    (sound : supervision.IsSound)
    (event : ChildEvent) :
    (supervision.step event).IsSound := by
  obtain ⟨child, streams, stage⟩ := supervision
  cases stage with
  | watching =>
      cases event with
      | exits status =>
          exact isSound_of_watching rfl
      | reaped =>
          exact IsSound.settle (isSound_of_watching rfl)
      | answered =>
          exact isSound_of_watching rfl
      | closes output errors =>
          exact IsSound.settle (isSound_of_watching rfl)
      | expires =>
          exact isSound_stop _ _
      | cancelled =>
          exact isSound_stop _ _
  | stopping outcome =>
      have ended : child ≠ .running :=
        sound nofun
      cases event with
      | exits status =>
          exact isSound_of_not_running (Child.exit_ne_running _ _)
      | reaped =>
          apply IsSound.settle
          apply isSound_of_not_running
          exact fun running => ended (Child.reap_eq_running_iff.mp running)
      | answered =>
          apply isSound_of_not_running
          exact fun running => ended (Child.reap_eq_running_iff.mp running)
      | closes output errors =>
          exact isSound_of_not_running ended
      | expires =>
          exact isSound_of_not_running ended
      | cancelled =>
          exact isSound_of_not_running ended
  | «over» outcome =>
      exact sound

/-- No event is the last one of a supervision whose child is running. -/
theorem outcome?_step_of_running
    (sound : supervision.IsSound)
    (running : supervision.child = .running)
    (event : ChildEvent) :
    (supervision.step event).outcome? = none := by
  obtain ⟨child, streams, stage⟩ := supervision
  cases running
  cases stage with
  | watching =>
      cases event <;>
        rfl
  | stopping outcome =>
      exact absurd rfl (sound nofun)
  | «over» outcome =>
      exact absurd rfl (sound nofun)

end Supervision

end ContractTemplates
