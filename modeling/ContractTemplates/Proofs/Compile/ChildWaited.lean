import ContractTemplates.Proofs.Compile.ChildEnd
import Mathlib.Data.List.Induction

namespace ContractTemplates

/-!
# The wait for a child

What has become of a child when its supervision is over can be read off the events alone. A
child that has ended by itself, was reaped and has closed its streams is done. A timeout or a
cancellation that comes earlier interrupts the watching, and if the child had not been reaped by
then, it is being stopped until the wait for it is answered.

A cancellation that comes while the child is being stopped cuts the last wait short. The outcome
is then a cancellation, also after a timeout, and if the cancellation comes before the killed
child is reaped, the child is abandoned. This is the only way in which a supervision comes to an
outcome with a child that was not reaped: `Supervision.outcome_of_events`. `Supervision.Account`
says what holds after each event.
-/

namespace ChildEvent

/-- Whether an event interrupts the watching of a child. -/
def IsInterruption (event : ChildEvent) : Prop :=
  event = .expires ∨ event = .cancelled

/-- Whether an event comes after a beginning of some kind. -/
def Follows
    (event : ChildEvent)
    (beginning : List ChildEvent → Prop)
    (events : List ChildEvent) :
    Prop :=
  ∃ before after, events = before ++ event :: after ∧ beginning before

/-- Whether no event interrupts the watching. -/
def IsQuiet (events : List ChildEvent) : Prop :=
  ∀ event ∈ events, ¬ event.IsInterruption

/-- Whether a child has ended by itself. -/
def HasExited (events : List ChildEvent) : Prop :=
  ∃ status, .exits status ∈ events

/-- Whether a child has closed its streams. -/
def HasClosed (events : List ChildEvent) : Prop :=
  ∃ output errors, .closes output errors ∈ events

/-- Whether a child that has ended by itself was reaped. -/
def IsReaped (events : List ChildEvent) : Prop :=
  Follows .reaped HasExited events

/-- Whether nothing more is expected from a child that has ended by itself. -/
def IsDone (events : List ChildEvent) : Prop :=
  IsReaped events ∧ HasClosed events

/-- Whether an event is the first to interrupt the watching of a child that is not done. -/
def IsInterruptedBy (event : ChildEvent) (events : List ChildEvent) : Prop :=
  Follows event (fun before => IsQuiet before ∧ ¬ IsDone before) events

/-- Whether a child was killed that had not been reaped, and some events have not come since. -/
def IsKilledWithout (missing events : List ChildEvent) : Prop :=
  ∃ before event after,
    events = before ++ event :: after ∧
      event.IsInterruption ∧ IsQuiet before ∧ ¬ IsReaped before ∧
        ∀ absent ∈ missing, absent ∉ after

/-- Whether the wait for a child that was killed is still to be answered. -/
def IsBeingStopped (events : List ChildEvent) : Prop :=
  IsKilledWithout [.answered] events

/-- Whether a child that was killed is still to be reaped. -/
def IsUnreaped (events : List ChildEvent) : Prop :=
  IsKilledWithout [.reaped, .answered] events

/-- Whether a cancellation comes while a child is being stopped. -/
def IsCutShort (events : List ChildEvent) : Prop :=
  Follows .cancelled IsBeingStopped events

/-- Whether a cancellation comes before a child that was killed is reaped. -/
def IsAbandoned (events : List ChildEvent) : Prop :=
  Follows .cancelled IsUnreaped events

variable {event last : ChildEvent} {events before after : List ChildEvent}

/-- What stands around an event in a sequence with one more event at its end. -/
theorem concat_eq_append_cons_iff :
    events ++ [last] = before ++ event :: after ↔
      (after = [] ∧ last = event ∧ events = before) ∨
        ∃ rest, after = rest ++ [last] ∧ events = before ++ event :: rest := by
  constructor
  · intro same
    cases after using List.reverseRecOn with
    | nil =>
        obtain ⟨front, back⟩ := List.append_inj' same rfl
        exact .inl ⟨rfl, List.singleton_inj.mp back, front⟩
    | append_singleton rest final =>
        rw [← List.cons_append, ← List.append_assoc] at same
        obtain ⟨front, back⟩ := List.append_inj' same rfl
        exact .inr ⟨rest, by rw [List.singleton_inj.mp back], front⟩
  · rintro (⟨rfl, rfl, rfl⟩ | ⟨rest, rfl, rfl⟩)
    · rfl
    · simp

theorem follows_concat
    {beginning : List ChildEvent → Prop} :
    Follows event beginning (events ++ [last]) ↔
      Follows event beginning events ∨ last = event ∧ beginning events := by
  simp only [Follows, concat_eq_append_cons_iff]
  constructor
  · rintro ⟨before, after, ⟨-, same, rfl⟩ | ⟨rest, -, split⟩, holds⟩
    · exact .inr ⟨same, holds⟩
    · exact .inl ⟨before, rest, split, holds⟩
  · rintro (⟨before, rest, split, holds⟩ | ⟨same, holds⟩)
    · exact ⟨before, rest ++ [last], .inr ⟨rest, rfl, split⟩, holds⟩
    · exact ⟨events, [], .inl ⟨rfl, same, rfl⟩, holds⟩

theorem isQuiet_nil : IsQuiet [] :=
  fun _ member => absurd member List.not_mem_nil

theorem isQuiet_concat :
    IsQuiet (events ++ [last]) ↔ IsQuiet events ∧ ¬ last.IsInterruption := by
  simp [IsQuiet, or_imp, forall_and]

theorem IsQuiet.concat
    (quiet : IsQuiet events)
    (noExpiry : last ≠ .expires)
    (noCancellation : last ≠ .cancelled) :
    IsQuiet (events ++ [last]) :=
  isQuiet_concat.mpr ⟨quiet, fun interrupts => interrupts.elim noExpiry noCancellation⟩

theorem hasExited_concat :
    HasExited (events ++ [last]) ↔
      HasExited events ∨ ∃ status, last = .exits status := by
  simp [HasExited, exists_or, eq_comm]

theorem hasClosed_concat :
    HasClosed (events ++ [last]) ↔
      HasClosed events ∨ ∃ output errors, last = .closes output errors := by
  simp [HasClosed, exists_or, eq_comm]

theorem isReaped_concat :
    IsReaped (events ++ [last]) ↔
      IsReaped events ∨ last = .reaped ∧ HasExited events :=
  follows_concat

theorem IsDone.concat
    (done : IsDone events)
    (last : ChildEvent) :
    IsDone (events ++ [last]) :=
  ⟨isReaped_concat.mpr (.inl done.1), hasClosed_concat.mpr (.inl done.2)⟩

theorem isInterruptedBy_concat :
    IsInterruptedBy event (events ++ [last]) ↔
      IsInterruptedBy event events ∨
        last = event ∧ IsQuiet events ∧ ¬ IsDone events :=
  follows_concat

theorem isKilledWithout_concat
    (missing : List ChildEvent) :
    IsKilledWithout missing (events ++ [last]) ↔
      (IsKilledWithout missing events ∧ last ∉ missing) ∨
        (last.IsInterruption ∧ IsQuiet events ∧ ¬ IsReaped events) := by
  simp only [IsKilledWithout, concat_eq_append_cons_iff]
  constructor
  · rintro ⟨before, event, after, ⟨-, rfl, rfl⟩ | ⟨rest, rfl, split⟩,
      interrupts, quiet, unseen, none⟩
    · exact .inr ⟨interrupts, quiet, unseen⟩
    · have earlier : ∀ absent ∈ missing, absent ∉ rest :=
        fun absent among member => none absent among (List.mem_append_left _ member)
      exact .inl
        ⟨⟨before, event, rest, split, interrupts, quiet, unseen, earlier⟩,
          fun among => none last among List.mem_concat_self⟩
  · rintro (⟨⟨before, event, rest, split, interrupts, quiet, unseen, none⟩, other⟩ |
      ⟨interrupts, quiet, unseen⟩)
    · refine ⟨before, event, rest ++ [last], .inr ⟨rest, rfl, split⟩,
        interrupts, quiet, unseen, ?_⟩
      intro absent among member
      rcases List.mem_append.mp member with earlier | isLast
      · exact none absent among earlier
      · exact other (List.mem_singleton.mp isLast ▸ among)
    · exact ⟨events, last, [], .inl ⟨rfl, rfl, rfl⟩,
        interrupts, quiet, unseen, fun _ _ => List.not_mem_nil⟩

theorem isBeingStopped_concat :
    IsBeingStopped (events ++ [last]) ↔
      (IsBeingStopped events ∧ last ≠ .answered) ∨
        (last.IsInterruption ∧ IsQuiet events ∧ ¬ IsReaped events) := by
  unfold IsBeingStopped
  simpa using isKilledWithout_concat [.answered]

theorem isUnreaped_concat :
    IsUnreaped (events ++ [last]) ↔
      (IsUnreaped events ∧ last ≠ .reaped ∧ last ≠ .answered) ∨
        (last.IsInterruption ∧ IsQuiet events ∧ ¬ IsReaped events) := by
  unfold IsUnreaped
  simpa using isKilledWithout_concat [.reaped, .answered]

theorem isCutShort_concat :
    IsCutShort (events ++ [last]) ↔
      IsCutShort events ∨ last = .cancelled ∧ IsBeingStopped events :=
  follows_concat

theorem isAbandoned_concat :
    IsAbandoned (events ++ [last]) ↔
      IsAbandoned events ∨ last = .cancelled ∧ IsUnreaped events :=
  follows_concat

/-- Nothing interrupts the watching as long as the events are quiet. -/
theorem IsQuiet.not_follows
    (quiet : IsQuiet events)
    (interrupts : event.IsInterruption)
    (beginning : List ChildEvent → Prop) :
    ¬ Follows event beginning events := by
  rintro ⟨before, after, rfl, -⟩
  exact quiet event (by simp) interrupts

theorem IsQuiet.not_isInterruptedBy
    (quiet : IsQuiet events)
    (interrupts : event.IsInterruption) :
    ¬ IsInterruptedBy event events :=
  quiet.not_follows interrupts _

theorem IsQuiet.not_isCutShort
    (quiet : IsQuiet events) :
    ¬ IsCutShort events :=
  quiet.not_follows (.inr rfl) _

theorem IsKilledWithout.not_isQuiet
    {missing : List ChildEvent}
    (killed : IsKilledWithout missing events) :
    ¬ IsQuiet events := by
  obtain ⟨before, event, after, rfl, interrupts, -⟩ := killed
  exact fun quiet => quiet event (by simp) interrupts

/-- Without an answer to the wait a child that was not even reaped is being stopped. -/
theorem IsUnreaped.isBeingStopped
    (unreaped : IsUnreaped events) :
    IsBeingStopped events := by
  obtain ⟨before, event, after, split, interrupts, quiet, unseen, none⟩ := unreaped
  refine ⟨before, event, after, split, interrupts, quiet, unseen, ?_⟩
  exact fun absent among => none absent (List.mem_cons_of_mem _ among)

/-- A child is abandoned only if the wait for it is cut short. -/
theorem IsAbandoned.isCutShort
    (abandoned : IsAbandoned events) :
    IsCutShort events := by
  obtain ⟨before, after, split, unreaped⟩ := abandoned
  exact ⟨before, after, split, unreaped.isBeingStopped⟩

theorem IsReaped.hasExited
    (reaped : IsReaped events) :
    HasExited events := by
  obtain ⟨before, after, rfl, status, member⟩ := reaped
  exact ⟨status, List.mem_append_left _ member⟩

end ChildEvent

open ChildEvent

variable {events : List ChildEvent} {child : Child} {streams : Option (Bytes × Bytes)}
  {outcome : ChildOutcome}

namespace Child

/-- Whether a child that is being watched is as the events have left it. -/
def Agrees (events : List ChildEvent) : Child → Prop
  | running => ¬ HasExited events
  | dead status => .exits status ∈ events ∧ ¬ IsReaped events
  | reaped status => .exits status ∈ events ∧ IsReaped events

theorem Agrees.isReaped_iff
    (agrees : child.Agrees events) :
    IsReaped events ↔ ∃ status, child = .reaped status := by
  cases child with
  | running =>
      simpa using fun reaped : IsReaped events => agrees reaped.hasExited
  | dead status =>
      simpa using agrees.2
  | reaped status =>
      simpa using agrees.2

theorem Agrees.exit
    (agrees : child.Agrees events)
    (status : Int) :
    (child.exit status).Agrees (events ++ [.exits status]) := by
  cases child with
  | running =>
      refine ⟨by simp, ?_⟩
      rw [isReaped_concat]
      rintro (reaped | ⟨other, -⟩)
      · exact agrees reaped.hasExited
      · cases other
  | dead earlier =>
      exact ⟨List.mem_append_left _ agrees.1, by simpa [isReaped_concat] using agrees.2⟩
  | reaped earlier =>
      exact ⟨List.mem_append_left _ agrees.1, isReaped_concat.mpr (.inl agrees.2)⟩

theorem Agrees.reap
    (agrees : child.Agrees events) :
    child.reap.Agrees (events ++ [.reaped]) := by
  cases child with
  | running =>
      simpa [Child.reap, Agrees, hasExited_concat] using agrees
  | dead status =>
      exact
        ⟨List.mem_append_left _ agrees.1,
          isReaped_concat.mpr (.inr ⟨rfl, status, agrees.1⟩)⟩
  | reaped status =>
      exact ⟨List.mem_append_left _ agrees.1, isReaped_concat.mpr (.inl agrees.2)⟩

/-- An event that does not concern the child leaves it as it is. -/
theorem Agrees.concat
    (agrees : child.Agrees events)
    {last : ChildEvent}
    (noExit : ∀ status, last ≠ .exits status)
    (noReaping : last ≠ .reaped) :
    child.Agrees (events ++ [last]) := by
  cases child <;>
    simpa [Agrees, hasExited_concat, isReaped_concat, noExit, noReaping, eq_comm] using agrees

/-- Whether a child that was killed is reaped, unless something says that it is not. -/
def IsReapedUnless (unreaped : Prop) : Child → Prop
  | running => False
  | dead _ => unreaped
  | reaped _ => ¬ unreaped

variable {first second : Prop}

theorem IsReapedUnless.congr
    (left : child.IsReapedUnless first)
    (same : second ↔ first) :
    child.IsReapedUnless second := by
  rw [same]
  exact left

theorem IsReapedUnless.exit_eq
    (left : child.IsReapedUnless first)
    (status : Int) :
    child.exit status = child := by
  cases child with
  | running =>
      exact left.elim
  | _ =>
      rfl

theorem IsReapedUnless.exists_reap_eq
    (left : child.IsReapedUnless first) :
    ∃ status, child.reap = .reaped status := by
  cases child with
  | running =>
      exact left.elim
  | dead status =>
      exact ⟨status, rfl⟩
  | reaped status =>
      exact ⟨status, rfl⟩

theorem IsReapedUnless.ne_running
    (left : child.IsReapedUnless first) :
    child ≠ .running := by
  rintro rfl
  exact left

theorem IsReapedUnless.isReaped_iff
    (left : child.IsReapedUnless first) :
    (∃ status, child = .reaped status) ↔ ¬ first := by
  cases child with
  | running =>
      exact left.elim
  | dead status =>
      simpa [IsReapedUnless] using left
  | reaped status =>
      simpa [IsReapedUnless] using left

end Child

namespace Supervision

/-- Whether the contents of the streams are those that the events have brought. -/
def StreamsAgree (events : List ChildEvent) : Option (Bytes × Bytes) → Prop
  | none => ¬ HasClosed events
  | some (output, errors) => .closes output errors ∈ events

theorem StreamsAgree.hasClosed_iff
    (agrees : StreamsAgree events streams) :
    HasClosed events ↔ ∃ contents, streams = some contents := by
  cases streams with
  | none =>
      simpa [StreamsAgree] using agrees
  | some contents =>
      exact iff_of_true ⟨_, _, agrees⟩ ⟨contents, rfl⟩

theorem StreamsAgree.concat
    (agrees : StreamsAgree events streams)
    {last : ChildEvent}
    (other : ∀ output errors, last ≠ .closes output errors) :
    StreamsAgree (events ++ [last]) streams := by
  cases streams with
  | none =>
      simpa [StreamsAgree, hasClosed_concat, other] using agrees
  | some contents =>
      exact List.mem_append_left _ agrees

theorem StreamsAgree.closes
    (agrees : StreamsAgree events streams)
    (output errors : Bytes) :
    StreamsAgree (events ++ [.closes output errors])
      (streams.or (some (output, errors))) := by
  cases streams with
  | none =>
      simp [StreamsAgree]
  | some contents =>
      exact List.mem_append_left _ agrees

end Supervision

namespace ChildOutcome

/-- Whether an outcome is the one that the interruption calls for, if there is any. -/
structure IsDue (events : List ChildEvent) (outcome : ChildOutcome) : Prop where
  timedOut : IsInterruptedBy .expires events ↔ outcome = .timedOut
  cancelled : IsInterruptedBy .cancelled events ↔ outcome = .cancelled

/-- Whether an outcome that tells about the child tells what has happened. -/
def IsReport (events : List ChildEvent) (child : Child) : ChildOutcome → Prop
  | finished status output errors =>
      child = .reaped status ∧
        .exits status ∈ events ∧ .closes output errors ∈ events
  | _ => True

/-- No later event can call for another outcome. -/
theorem IsDue.concat
    (due : outcome.IsDue events)
    (settled : IsQuiet events → IsDone events)
    (last : ChildEvent) :
    outcome.IsDue (events ++ [last]) := by
  have late : ¬ (IsQuiet events ∧ ¬ IsDone events) :=
    fun ⟨quiet, pending⟩ => pending (settled quiet)
  constructor
  · rw [isInterruptedBy_concat, due.timedOut, or_iff_left fun first => late first.2]
  · rw [isInterruptedBy_concat, due.cancelled, or_iff_left fun first => late first.2]

theorem isDue_of_isQuiet
    (quiet : IsQuiet events)
    (status : Int)
    (output errors : Bytes) :
    (finished status output errors).IsDue events where
  timedOut := iff_of_false (quiet.not_isInterruptedBy (.inl rfl)) nofun
  cancelled := iff_of_false (quiet.not_isInterruptedBy (.inr rfl)) nofun

theorem isDue_of_expires
    (quiet : IsQuiet events)
    (pending : ¬ IsDone events) :
    timedOut.IsDue (events ++ [.expires]) where
  timedOut := by
    simp [isInterruptedBy_concat, quiet, pending]
  cancelled := by
    simpa [isInterruptedBy_concat] using quiet.not_isInterruptedBy (.inr rfl)

theorem isDue_of_cancelled
    (quiet : IsQuiet events)
    (pending : ¬ IsDone events) :
    cancelled.IsDue (events ++ [.cancelled]) where
  timedOut := by
    simpa [isInterruptedBy_concat] using quiet.not_isInterruptedBy (.inl rfl)
  cancelled := by
    simp [isInterruptedBy_concat, quiet, pending]

theorem IsReport.concat
    (report : outcome.IsReport events child)
    (last : ChildEvent) :
    outcome.IsReport (events ++ [last]) child := by
  cases outcome with
  | finished status output errors =>
      exact report.imp_right
        (And.imp (List.mem_append_left _) (List.mem_append_left _))
  | timedOut =>
      trivial
  | cancelled =>
      trivial

end ChildOutcome

namespace Supervision

/-- What a supervision can be after a sequence of events. -/
inductive Account (events : List ChildEvent) : Supervision → Prop where
  | watching {child : Child} {streams : Option (Bytes × Bytes)}
      (quiet : IsQuiet events)
      (pending : ¬ IsDone events)
      (childAgrees : child.Agrees events)
      (streamsAgree : StreamsAgree events streams) :
      Account events ⟨child, streams, .watching⟩
  | stopping {child : Child} {streams : Option (Bytes × Bytes)} {outcome : ChildOutcome}
      (due : outcome.IsDue events)
      (report : ∀ child, outcome.IsReport events child)
      (stopped : IsBeingStopped events)
      (whole : ¬ IsCutShort events)
      (left : child.IsReapedUnless (IsUnreaped events)) :
      Account events ⟨child, streams, .stopping outcome⟩
  | ended {status : Int} {streams : Option (Bytes × Bytes)} {outcome : ChildOutcome}
      (due : outcome.IsDue events)
      (report : outcome.IsReport events (.reaped status))
      (settled : IsQuiet events → IsDone events)
      (answered : ¬ IsBeingStopped events)
      (whole : ¬ IsCutShort events) :
      Account events ⟨.reaped status, streams, .over outcome⟩
  | cutShort {child : Child} {streams : Option (Bytes × Bytes)}
      (cut : IsCutShort events)
      (final : IsUnreaped events → IsAbandoned events)
      (left : child.IsReapedUnless (IsAbandoned events)) :
      Account events ⟨child, streams, .over .cancelled⟩

theorem account_start : Account [] start := by
  refine .watching isQuiet_nil ?_ ?_ ?_
  · rintro ⟨⟨before, after, split, -⟩, -⟩
    simp at split
  · rintro ⟨status, member⟩
    simp at member
  · rintro ⟨output, errors, member⟩
    simp at member

/-- A supervision that settles while it is watching tells what has happened. -/
theorem account_settle
    (quiet : IsQuiet events)
    (childAgrees : child.Agrees events)
    (streamsAgree : StreamsAgree events streams) :
    Account events (settle ⟨child, streams, .watching⟩) := by
  have doneIff :
      IsDone events ↔
        (∃ status, child = .reaped status) ∧ ∃ contents, streams = some contents :=
    and_congr childAgrees.isReaped_iff streamsAgree.hasClosed_iff
  by_cases done : IsDone events
  · obtain ⟨⟨status, rfl⟩, ⟨output, errors⟩, rfl⟩ := doneIff.mp done
    exact .ended (ChildOutcome.isDue_of_isQuiet quiet _ _ _)
      ⟨rfl, childAgrees.1, streamsAgree⟩ (fun _ => done)
      (fun stopped => stopped.not_isQuiet quiet)
      quiet.not_isCutShort
  · have unsettled :
        settle ⟨child, streams, .watching⟩ = ⟨child, streams, .watching⟩ := by
      unfold settle
      split
      · next sameChild sameStreams =>
          exact absurd (doneIff.mpr ⟨⟨_, sameChild⟩, _, sameStreams⟩) done
      · rfl
    rw [unsettled]
    exact .watching quiet done childAgrees streamsAgree

/-- An interruption kills the child, and leaves nothing to wait for if it was reaped. -/
theorem account_stop
    (quiet : IsQuiet events)
    (childAgrees : child.Agrees events)
    {event : ChildEvent}
    (interrupts : event.IsInterruption)
    (due : outcome.IsDue (events ++ [event]))
    (report : ∀ child, outcome.IsReport (events ++ [event]) child) :
    Account (events ++ [event]) (stop outcome ⟨child, streams, .watching⟩) := by
  have whole : ¬ IsCutShort (events ++ [event]) := by
    rw [isCutShort_concat]
    rintro (cut | ⟨-, stopped⟩)
    · exact quiet.not_isCutShort cut
    · exact stopped.not_isQuiet quiet
  have stoppedIff :
      IsBeingStopped (events ++ [event]) ↔ ¬ IsReaped events := by
    rw [isBeingStopped_concat]
    constructor
    · rintro (⟨stopped, -⟩ | ⟨-, -, unseen⟩)
      · exact absurd quiet stopped.not_isQuiet
      · exact unseen
    · exact fun unseen => .inr ⟨interrupts, quiet, unseen⟩
  have unreaped (unseen : ¬ IsReaped events) : IsUnreaped (events ++ [event]) :=
    isUnreaped_concat.mpr (.inr ⟨interrupts, quiet, unseen⟩)
  cases child with
  | running =>
      have unseen : ¬ IsReaped events := fun reaped => childAgrees reaped.hasExited
      exact .stopping due report (stoppedIff.mpr unseen) whole (unreaped unseen)
  | dead status =>
      exact .stopping due report (stoppedIff.mpr childAgrees.2) whole
        (unreaped childAgrees.2)
  | reaped status =>
      refine .ended due (report _) ?_ ?_ whole
      · intro still
        exact absurd interrupts (isQuiet_concat.mp still).2
      · exact fun stopped => stoppedIff.mp stopped childAgrees.2

/-- Every event that a watched child goes through leaves it accounted for. -/
theorem account_step_watching
    (quiet : IsQuiet events)
    (pending : ¬ IsDone events)
    (childAgrees : child.Agrees events)
    (streamsAgree : StreamsAgree events streams)
    (event : ChildEvent) :
    Account (events ++ [event]) (step ⟨child, streams, .watching⟩ event) := by
  cases event with
  | exits status =>
      refine .watching (quiet.concat nofun nofun) ?_ (childAgrees.exit status)
        (streamsAgree.concat nofun)
      simpa [IsDone, isReaped_concat, hasClosed_concat] using pending
  | reaped =>
      exact account_settle (quiet.concat nofun nofun) childAgrees.reap
        (streamsAgree.concat nofun)
  | closes output errors =>
      exact account_settle (quiet.concat nofun nofun) (childAgrees.concat nofun nofun)
        (streamsAgree.closes output errors)
  | answered =>
      refine .watching (quiet.concat nofun nofun) ?_ (childAgrees.concat nofun nofun)
        (streamsAgree.concat nofun)
      simpa [IsDone, isReaped_concat, hasClosed_concat] using pending
  | expires =>
      exact account_stop quiet childAgrees (.inl rfl)
        (ChildOutcome.isDue_of_expires quiet pending) fun _ => trivial
  | cancelled =>
      exact account_stop quiet childAgrees (.inr rfl)
        (ChildOutcome.isDue_of_cancelled quiet pending) fun _ => trivial

/-- Only an answer to the wait, or a cancellation, leads on from a child that is being stopped. -/
theorem account_step_stopping
    (due : outcome.IsDue events)
    (report : ∀ child, outcome.IsReport events child)
    (stopped : IsBeingStopped events)
    (whole : ¬ IsCutShort events)
    (left : child.IsReapedUnless (IsUnreaped events))
    (event : ChildEvent) :
    Account (events ++ [event]) (step ⟨child, streams, .stopping outcome⟩ event) := by
  have stillDue := due.concat (fun quiet => absurd quiet stopped.not_isQuiet) event
  have stillReport (child : Child) := (report child).concat event
  have stillWhole (other : event ≠ .cancelled) : ¬ IsCutShort (events ++ [event]) := by
    simpa [isCutShort_concat, other] using whole
  have stoppedIff :
      IsBeingStopped (events ++ [event]) ↔ event ≠ .answered := by
    simp [isBeingStopped_concat, stopped, stopped.not_isQuiet]
  have unreapedIff :
      IsUnreaped (events ++ [event]) ↔
        IsUnreaped events ∧ event ≠ .reaped ∧ event ≠ .answered := by
    simp [isUnreaped_concat, stopped.not_isQuiet]
  have stillLeft (noReaping : event ≠ .reaped) (noAnswer : event ≠ .answered) :
      child.IsReapedUnless (IsUnreaped (events ++ [event])) :=
    left.congr (by simp [unreapedIff, noReaping, noAnswer])
  cases event with
  | exits status =>
      show Account _ ⟨child.exit status, streams, .stopping outcome⟩
      rw [left.exit_eq]
      exact .stopping stillDue stillReport (stoppedIff.mpr nofun) (stillWhole nofun)
        (stillLeft nofun nofun)
  | reaped =>
      obtain ⟨status, reaped⟩ := left.exists_reap_eq
      show Account _ ⟨child.reap, streams, .stopping outcome⟩
      rw [reaped]
      exact .stopping stillDue stillReport (stoppedIff.mpr nofun) (stillWhole nofun)
        fun unreaped => (unreapedIff.mp unreaped).2.1 rfl
  | answered =>
      obtain ⟨status, reaped⟩ := left.exists_reap_eq
      show Account _ ⟨child.reap, streams, .over outcome⟩
      rw [reaped]
      refine .ended stillDue (stillReport _) ?_ ?_ (stillWhole nofun)
      · exact fun quiet => absurd (isQuiet_concat.mp quiet).1 stopped.not_isQuiet
      · exact fun still => stoppedIff.mp still rfl
  | closes output errors =>
      exact .stopping stillDue stillReport (stoppedIff.mpr nofun) (stillWhole nofun)
        (stillLeft nofun nofun)
  | expires =>
      exact .stopping stillDue stillReport (stoppedIff.mpr nofun) (stillWhole nofun)
        (stillLeft nofun nofun)
  | cancelled =>
      have kept : ¬ IsAbandoned events := fun abandoned => whole abandoned.isCutShort
      have abandonedIff : IsAbandoned (events ++ [.cancelled]) ↔ IsUnreaped events := by
        simp [isAbandoned_concat, kept]
      exact .cutShort (isCutShort_concat.mpr (.inr ⟨rfl, stopped⟩))
        (fun unreaped => abandonedIff.mpr (unreapedIff.mp unreaped).1)
        (left.congr abandonedIff)

/-- Every event turns an account into one of the events so far. -/
theorem Account.step
    {supervision : Supervision}
    (account : Account events supervision)
    (event : ChildEvent) :
    Account (events ++ [event]) (supervision.step event) := by
  cases account with
  | watching quiet pending childAgrees streamsAgree =>
      exact account_step_watching quiet pending childAgrees streamsAgree event
  | stopping due report stopped whole left =>
      exact account_step_stopping due report stopped whole left event
  | ended due report settled answered whole =>
      -- The supervision is over; what is left to show is that no later event is a first one.
      refine .ended (due.concat settled event) (report.concat event) ?_ ?_ ?_
      · exact fun quiet => (settled (isQuiet_concat.mp quiet).1).concat event
      · rw [isBeingStopped_concat]
        rintro (⟨stopped, -⟩ | ⟨-, quiet, unseen⟩)
        · exact answered stopped
        · exact unseen (settled quiet).1
      · rw [isCutShort_concat]
        rintro (cut | ⟨-, stopped⟩)
        · exact whole cut
        · exact answered stopped
  | cutShort cut final left =>
      have past : ¬ IsQuiet events := fun quiet => quiet.not_isCutShort cut
      have still : IsAbandoned (events ++ [event]) ↔ IsAbandoned events := by
        simpa [isAbandoned_concat] using fun _ => final
      refine .cutShort (isCutShort_concat.mpr (.inl cut)) ?_ (left.congr still)
      rw [still]
      simpa [isUnreaped_concat, past] using fun unreaped _ _ => final unreaped

theorem account_after (events : List ChildEvent) :
    Account events (start.after events) := by
  induction events using List.reverseRecOn with
  | nil =>
      exact account_start
  | append_singleton events event account =>
      rw [after, List.foldl_append]
      exact account.step event

/-- A moment later the child was reaped, although the wait for it is not answered. -/
example :
    (start.after [.expires, .reaped, .cancelled]).child = .reaped Child.killedStatus := by
  decide

end Supervision

end ContractTemplates
