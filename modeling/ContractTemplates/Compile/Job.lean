import ContractTemplates.Compile.Compiler
import ContractTemplates.Compile.Supervision
import ContractTemplates.Files

namespace ContractTemplates

/-!
# Compile jobs

A compile job makes the working directory, writes its input, starts the
compiler, watches it, reads the document and removes both of its files. The two
files are removed on every way to the end: after a refusal by the file system,
after a failed start, after an error of the compiler, when the time is up and
when the job is cancelled.

A job advances by events. An event says what happened outside of the job: what
the file system refused, what became of the start, what the command did to the
files, and what the supervision of the command saw. `Job.step` is what one event
does to the files and to the stage of the job; an event that does not fit the
stage does nothing.
-/

/-- Why a job has no document. -/
inductive CompileFault where
  | timedOut (timeout : Number)
  /-- The file system or the start of the command refused something. -/
  | refused (fault : FileFault) (path : Text)
  /-- The command failed and said why. -/
  | rejected (diagnostic : Text)
  /-- The command failed without a word. -/
  | exited (status : Int)
  /-- The command succeeded and left no document. -/
  | noDocument
  deriving DecidableEq, Repr

namespace CompileFault

/-- The text of a number of seconds, with at most six digits. -/
def secondsText : Number → Text
  | .integer value => (Binary64.ofInt value).briefText
  | .double value => value.briefText

/-- A fault in words. -/
def message : CompileFault → Text
  | timedOut timeout =>
      "Typst compilation timed out after ".toList ++ secondsText timeout ++ ['s']
  | refused fault path => "Failed to invoke Typst: ".toList ++ fault.message path
  | rejected diagnostic => diagnostic
  | exited status => "typst exited with code ".toList ++ Text.ofInt status
  | noDocument =>
      "Typst reported success, but no PDF output was produced.".toList

/-- The fault of a command that failed: its errors, or its output, or its status. -/
def diagnosed (status : Int) (output errors : Text) : CompileFault :=
  if errors ≠ [] then
    .rejected errors
  else if output ≠ [] then
    .rejected output
  else
    .exited status

end CompileFault

/-- What became of the start of a command. -/
inductive Launch where
  | started
  /-- There is no such command, or no such directory to start it in. -/
  | missing
  | refused (fault : FileFault) (path : Text)
  deriving DecidableEq, Repr

/-- The status that stands for a command that is not there. -/
def missingStatus : Int :=
  127

/-- The words about a command that is not there. -/
def missingText (command : Text) : Text :=
  "Command not found: ".toList ++ command

/-- How a job ends. -/
inductive JobOutcome where
  | document (content : Bytes)
  | failed (fault : CompileFault)
  | cancelled
  deriving DecidableEq, Repr

/-- How far a job has come. -/
inductive JobStage where
  | preparing
  | writing
  | launching
  | running (supervision : Supervision)
  | reading
  | clearingInput (outcome : JobOutcome)
  | clearingOutput (outcome : JobOutcome)
  | over (outcome : JobOutcome)
  deriving DecidableEq, Repr

/-- What can happen to a job from outside. -/
inductive JobEvent where
  /-- The working directory is made, or refused. -/
  | directory (refusal : Option FileFault)
  /-- The input is written. -/
  | input
  /-- The input is refused, and possibly a part of it left behind. -/
  | inputRefused (fault : FileFault) (left : Option Bytes)
  | launch (launch : Launch)
  /-- The start of the command is cancelled. -/
  | launchCancelled
  /-- The command does something to the files. -/
  | acts (change : Files → Files)
  | child (event : ChildEvent)
  /-- The document is read, or refused. -/
  | output (refused : Bool)
  /-- A file of the job is removed, or stays. -/
  | cleared (refused : Bool)

/-- A job: a compiler, the name of the job, the source, and where the service works. -/
structure Job where
  compiler : Compiler
  name : Text
  source : Text
  home : Location
  deriving DecidableEq, Repr

namespace Job

/-- The location of the working directory. -/
def directory (job : Job) : Location :=
  job.compiler.workdir.resolve job.home

/-- The location of the input. -/
def input (job : Job) : Location :=
  (job.compiler.inputPath job.name).resolve job.home

/-- The location of the output. -/
def output (job : Job) : Location :=
  (job.compiler.outputPath job.name).resolve job.home

/-- The first word of the call. -/
def command (job : Job) : Text :=
  (job.compiler.jobCall job.name).headD []

/-- The stage after a fault. -/
def fail (fault : CompileFault) : JobStage :=
  .clearingInput (.failed fault)

/-- The stage after a command has ended with a status. -/
def afterStatus (status : Int) (output errors : Text) : JobStage :=
  if status = 0 then
    .reading
  else
    fail (.diagnosed status output errors)

/-- The stage after a supervision. -/
def afterChild (job : Job) (supervision : Supervision) : JobStage :=
  match supervision.outcome? with
  | none => .running supervision
  | some (.finished status output errors) =>
      afterStatus status (streamText output) (streamText errors)
  | some .timedOut => fail (.timedOut job.compiler.timeout)
  | some .cancelled => .clearingInput .cancelled

/-- The files and the stage after a file operation, or after its refusal. -/
def attempt (path : Path) (next : JobStage) (files : Files) :
    Except FileFault Files → Files × JobStage
  | .ok changed => (changed, next)
  | .error fault => (files, fail (.refused fault path.text))

/-- The files without a file of the job, unless it cannot be removed. -/
def clear (location : Location) (refused : Bool) (files : Files) : Files :=
  if refused then
    files
  else
    match files.remove location with
    | .ok removed => removed
    | .error _ => files

/-- What an event does to the files and to the stage of a job. -/
def step (job : Job) (state : Files × JobStage) (event : JobEvent) :
    Files × JobStage :=
  let (files, stage) := state
  match stage, event with
  | .preparing, .directory refusal =>
      attempt job.compiler.workdir .writing files
        (match refusal with
        | some fault => .error fault
        | none => files.makeDirectories job.directory)
  | .writing, .input =>
      attempt (job.compiler.inputPath job.name) .launching files
        (files.write job.input job.source.utf8)
  | .writing, .inputRefused fault left =>
      let changed :=
        match left with
        | some content => (files.write job.input content).toOption.getD files
        | none => files
      (changed, fail (.refused fault (job.compiler.inputPath job.name).text))
  | .launching, .launch .started => (files, .running Supervision.start)
  | .launching, .launch .missing =>
      (files, afterStatus missingStatus [] (missingText job.command))
  | .launching, .launch (.refused fault path) =>
      (files, fail (.refused fault path))
  | .launching, .launchCancelled => (files, .clearingInput .cancelled)
  | .running supervision, .acts change =>
      if supervision.child = .running then
        (change files, stage)
      else
        (files, stage)
  | .running supervision, .child event =>
      (files, job.afterChild (supervision.step event))
  | .reading, .output refused =>
      match refused, files.read job.output with
      | false, .ok content => (files, .clearingInput (.document content))
      | _, _ => (files, fail .noDocument)
  | .clearingInput outcome, .cleared refused =>
      (clear job.input refused files, .clearingOutput outcome)
  | .clearingOutput outcome, .cleared refused =>
      (clear job.output refused files, .over outcome)
  | _, _ => (files, stage)

/-- What a sequence of events does. -/
def after (job : Job) (state : Files × JobStage) (events : List JobEvent) :
    Files × JobStage :=
  events.foldl job.step state

/-- The outcome of a job that is over. -/
def outcome? (stage : JobStage) : Option JobOutcome :=
  match stage with
  | .over outcome => some outcome
  | _ => none

end Job

end ContractTemplates
