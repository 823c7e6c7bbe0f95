import ContractTemplates.Host.Execution
import ContractTemplates.Settings.Basic
import ContractTemplates.Template.Document

namespace ContractTemplates

/-!
# The rehearsal host

A rehearsal host stands for the system on which the service runs: it has files,
it starts commands and lets time pass for them. Compile jobs on it take the same
steps as anywhere else, because what happens on the host reaches a job only as
events.
-/

/-- How long a command is watched. -/
structure Patience where
  timeout : Number
  /-- The seconds after which the watching is cancelled. -/
  cancelAfter : Option Number
  deriving DecidableEq, Repr

/-- The microseconds of a number of seconds; at least none. -/
def Number.microseconds : Number → Nat
  | .integer value => value.toNat * Host.second
  | .double (.finite value) =>
      if value.signedUnits < 0 then
        0
      else
        value.units * Host.second / Binary64.unitsPerOne
  | .double (.infinite negative) => if negative then 0 else Host.forever
  | .double .notANumber => 0

namespace Patience

/-- The time after which the watching ends in any case. -/
def limit (patience : Patience) : Nat :=
  match patience.cancelAfter with
  | some seconds => min patience.timeout.microseconds seconds.microseconds
  | none => patience.timeout.microseconds

/-- What happens when that time is over. -/
def interruption (patience : Patience) : ChildEvent :=
  match patience.cancelAfter with
  | some seconds =>
      if seconds.microseconds < patience.timeout.microseconds then
        .cancelled
      else
        .expires
  | none => .expires

/-- Whether a cancellation comes with the timeout or later, but before another time. -/
def isCancelledBefore (time : Nat) (patience : Patience) : Bool :=
  patience.cancelAfter.any fun seconds =>
    patience.timeout.microseconds ≤ seconds.microseconds ∧
      seconds.microseconds < time

end Patience

namespace Host

/-- The microseconds that it takes to reap a child that was killed. -/
def reapTime : Nat :=
  1000

/--
What a supervision sees of a child that was killed because its time was up, or
because its watching was cancelled. Its streams are held open until some time.
-/
def eventsAfterKill (patience : Patience) (heldUntil : Nat) : List ChildEvent :=
  if patience.isCancelledBefore (patience.timeout.microseconds + reapTime) then
    [.cancelled]
  else if patience.isCancelledBefore heldUntil then
    [.reaped, .cancelled]
  else
    [.reaped, .answered]

/-- What a supervision sees of an execution. -/
def childEvents (patience : Patience) (execution : Execution) :
    List ChildEvent :=
  match execution.status with
  | some status =>
      if execution.isClosed then [
        .exits status,
        .closes (streamOf .output execution.writings)
          (streamOf .errors execution.writings),
        .reaped]
      else
        [.exits status, .reaped, patience.interruption]
  | none =>
      patience.interruption :: eventsAfterKill patience execution.heldUntil

/-- How the run of a command ends. -/
inductive CommandOutcome where
  | finished (status : Int) (output errors : Text)
  | timedOut (timeout : Number) (command : Text)
  | cancelled
  | refused (fault : FileFault)
  deriving DecidableEq, Repr

/-- The words about a command that took too long. -/
def timedOutText (timeout : Number) (command : Text) : Text :=
  "Command timed out after ".toList ++ timeout.text ++ "s: ".toList ++ command

/-- How a command ends that was started under supervision. -/
def outcomeOf (patience : Patience) (command : Text)
    (execution : Execution) : CommandOutcome :=
  match
    (Supervision.start.after (childEvents patience execution)).outcome? with
  | some (.finished status output errors) =>
      .finished status (streamText output) (streamText errors)
  | some .timedOut => .timedOut patience.timeout command
  | _ => .cancelled

/-- Runs a command in a directory. -/
def run
    (patience : Patience)
    (words : List Text)
    (directory : Location)
    (files : Files) :
    CommandOutcome × Files :=
  let command := words.headD []
  match launch command directory files with
  | .missing => (.finished missingStatus [] (missingText command), files)
  | .refused fault _ => (.refused fault, files)
  | .started =>
      let execution := execute (some patience.limit) words directory files
      (outcomeOf patience command execution, execution.files)

/-- The status of a command that is killed and waited for, possibly after its end. -/
def reapedStatus
    (waitsFirst : Bool)
    (words : List Text)
    (directory : Location)
    (files : Files) :
    Int :=
  let child :=
    match waitsFirst, (execute none words directory files).status with
    | true, some status => Child.running.exit status
    | _, _ => Child.running
  match child.kill.reap with
  | .reaped status => status
  | _ => Child.killedStatus

/-- The stage of a job after its command was started, or was not. -/
def launchJob (patience : Patience) (job : Job) (files : Files) :
    Files × JobStage :=
  let launched := launch job.command job.directory files
  let next := job.step (files, .launching) (.launch launched)
  match launched with
  | .started =>
      let execution :=
        execute (some patience.limit) (job.compiler.jobCall job.name)
          job.directory files
      job.after next
        (.acts (fun _ => execution.files) ::
          (childEvents patience execution).map .child)
  | _ => next

/-- Does a compile job from its start to its end. -/
def runJob (patience : Patience) (job : Job) (files : Files) :
    Option JobOutcome × Files :=
  let prepared := job.after (files, .preparing) [.directory none, .input]
  let worked :=
    match prepared with
    | (prepared, .launching) => launchJob patience job prepared
    | state => state
  let (remaining, stage) :=
    job.after worked [.output false, .cleared false, .cleared false]
  (Job.outcome? stage, remaining)

/-- The name of a job: the number of the job in hexadecimal digits. -/
def jobName (number : Nat) : Text :=
  let digits := Nat.toDigits 16 number
  List.replicate (32 - digits.length) '0' ++ digits

end Host

/-- The directories and files that every host has. -/
def Host.standardFiles : Files := [
  (["dev".toList], .directory),
  (["tmp".toList], .directory),
  (["bin".toList], .directory),
  (["usr".toList], .directory),
  (["usr".toList, "bin".toList], .directory),
  (["etc".toList], .directory),
  (["etc".toList, "passwd".toList], .file [])]

/-- A rehearsal host, with the number of jobs that have been done on it. -/
structure Host where
  files : Files
  jobs : Nat

namespace Host

/-- Does the next compile job. -/
def compile
    (patience : Patience)
    (compiler : Compiler)
    (home : Location)
    (source : Text)
    (host : Host) :
    Option JobOutcome × Host :=
  let job : Job := ⟨compiler, jobName host.jobs, source, home⟩
  let (outcome, files) := runJob patience job host.files
  (outcome, ⟨files, host.jobs + 1⟩)

/--
What a job makes of a source with half a character: its input is opened, and
cleared again when the source cannot be written into it.
-/
def refuseSource (compiler : Compiler) (home : Location) (host : Host) :
    CompileResult × Host :=
  let job : Job := ⟨compiler, jobName host.jobs, [], home⟩
  let opened := job.after (host.files, .preparing) [.directory none, .input]
  let (files, stage) := job.after opened [.cleared false, .cleared false]
  let result :=
    match Job.outcome? stage with
    | some (.failed fault) => .error (.job fault)
    | _ => .error .notText
  match stage with
  | .launching => (result, ⟨Job.clear job.input false files, host.jobs + 1⟩)
  | _ => (result, ⟨files, host.jobs + 1⟩)

/-- What a compiler that is never cancelled makes of a source. -/
def compileResult (compiler : Compiler) (home : Location) (source : RawText) :
    StateM Host CompileResult := fun host =>
  match source.text? with
  | none => host.refuseSource compiler home
  | some text =>
      let (outcome, next) :=
        host.compile ⟨compiler.timeout, none⟩ compiler home text
      match outcome with
      | some (.document content) => (.ok content, next)
      | some (.failed fault) => (.error (.job fault), next)
      | _ => (.error (.job .noDocument), next)

end Host

end ContractTemplates
