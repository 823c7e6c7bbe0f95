import ContractTemplates.Bytes
import ContractTemplates.Text.Blank
import ContractTemplates.Text.Utf8

namespace ContractTemplates

/-!
# Supervision of a child process

A child process is watched until it was reaped and its output streams are at
their end. If the time is up, or if the watching itself is cancelled, the child is
killed, and then only its end is waited for. A cancellation during that last wait
ends the supervision at once.

To be reaped and to be awaited are two things. A child that has ended is reaped as
soon as its status is taken, and this takes only a moment. The wait for it is
answered at once if the child was reaped before, but otherwise not before its
streams are closed, and a process that it has left behind may keep them open for as
long as it likes.

`Supervision.step` says what one event does, and `Supervision.after` what a
sequence of events does, in whatever order they come. Events that cannot happen
any more change nothing.
-/

/-- What has become of a child process. -/
inductive Child where
  | running
  /-- The child has ended, and nobody has taken its status yet. -/
  | dead (status : Int)
  /-- The child has ended, and its status was taken. -/
  | reaped (status : Int)
  deriving DecidableEq, Repr

namespace Child

/-- The status of a child that was killed. -/
def killedStatus : Int :=
  -9

/-- Ends a running child with a status. -/
def exit (status : Int) : Child → Child
  | running => dead status
  | child => child

/-- Kills a child that is still running. -/
def kill : Child → Child :=
  exit killedStatus

/-- Takes the status of a child that has ended. -/
def reap : Child → Child
  | dead status => reaped status
  | child => child

end Child

/-- What can happen during a supervision. -/
inductive ChildEvent where
  /-- The child ends by itself. -/
  | exits (status : Int)
  /-- The status of a child that has ended is taken. -/
  | reaped
  /-- Both output streams are at their end. -/
  | closes (output errors : Bytes)
  /-- The wait for a killed child is answered; it was reaped at the latest just before. -/
  | answered
  /-- The time is up. -/
  | expires
  /-- The watching is cancelled. -/
  | cancelled
  deriving DecidableEq, Repr

/-- How a supervision ends. -/
inductive ChildOutcome where
  | finished (status : Int) (output errors : Bytes)
  | timedOut
  | cancelled
  deriving DecidableEq, Repr

/-- How far a supervision has come. -/
inductive SupervisionStage where
  | watching
  /-- The child was killed, and the wait for it is to be answered before this outcome. -/
  | stopping (outcome : ChildOutcome)
  | over (outcome : ChildOutcome)
  deriving DecidableEq, Repr

/-- A child process under supervision. -/
structure Supervision where
  child : Child
  /-- What the output streams contained, once both are at their end. -/
  streams : Option (Bytes × Bytes)
  stage : SupervisionStage
  deriving DecidableEq, Repr

namespace Supervision

/-- The supervision of a child that has just been started. -/
def start : Supervision where
  child := .running
  streams := none
  stage := .watching

/-- Ends the watching if all that it waits for has happened. -/
def settle (supervision : Supervision) : Supervision :=
  match supervision.stage, supervision.child, supervision.streams with
  | .watching, .reaped status, some (output, errors) =>
      { supervision with stage := .over (.finished status output errors) }
  | _, _, _ => supervision

/-- Kills the child in order to end with an outcome; one that was reaped is not awaited. -/
def stop (outcome : ChildOutcome) (supervision : Supervision) : Supervision :=
  match supervision.child with
  | .reaped _ => { supervision with stage := .over outcome }
  | child =>
      { supervision with
        child := child.kill
        stage := .stopping outcome }

/-- What an event does. -/
def step (supervision : Supervision) (event : ChildEvent) : Supervision :=
  match supervision.stage, event with
  | .over _, _ => supervision
  | _, .exits status =>
      { supervision with child := supervision.child.exit status }
  | _, .reaped =>
      settle { supervision with child := supervision.child.reap }
  | .watching, .closes output errors =>
      settle
        { supervision with
          streams := supervision.streams.or (some (output, errors)) }
  | .watching, .expires => supervision.stop .timedOut
  | .watching, .cancelled => supervision.stop .cancelled
  | .watching, .answered => supervision
  | .stopping outcome, .answered =>
      { supervision with
        child := supervision.child.reap
        stage := .over outcome }
  | .stopping _, .cancelled => { supervision with stage := .over .cancelled }
  | .stopping _, _ => supervision

/-- What a sequence of events does. -/
def after (supervision : Supervision) (events : List ChildEvent) : Supervision :=
  events.foldl step supervision

/-- The outcome of a supervision that is over. -/
def outcome? (supervision : Supervision) : Option ChildOutcome :=
  match supervision.stage with
  | .over outcome => some outcome
  | _ => none

end Supervision

/-- The text of an output stream: decoded with replacements, without blanks around it. -/
def streamText (stream : Bytes) : Text :=
  (Text.ofUtf8Lossy stream).strip

end ContractTemplates
