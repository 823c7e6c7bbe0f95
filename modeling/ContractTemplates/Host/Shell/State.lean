import ContractTemplates.Entries
import ContractTemplates.Host.Program.Small
import ContractTemplates.Host.Shell.Grammar

namespace ContractTemplates.Host.Shell

/-!
# The state of a shell

A shell has the files, the directory that it works in, its variables and
arguments, its input, and the places to which its streams go. Time passes while
it works. If a limit is set, the shell stops in the middle of its work when the
limit is reached; what it has done to the files until then stays.
-/

/-- Where a stream goes. -/
inductive Sink where
  | channel (channel : Channel)
  | pipe
  | file (location : Location)
  | nowhere
  deriving DecidableEq, Repr

/-- Where the two streams go. -/
structure Sinks where
  output : Sink
  errors : Sink
  deriving DecidableEq, Repr

/-- How the work of a shell, or a part of it, is broken off. -/
inductive Ending where
  | exited (status : Nat)
  | killed (signal : Nat)
  /-- The limit of time is reached. -/
  | expired
  | loopLeft
  | roundLeft
  deriving DecidableEq, Repr

/-- The state of a shell. -/
structure State where
  files : Files
  directory : Location
  bindings : List (Text × Text)
  arguments : List Text
  name : Text
  status : Nat
  input : Bytes
  sinks : Sinks
  /-- What was written to the streams of the shell, the latest first. -/
  written : List Writing
  /-- What was written to the pipe that is open, the latest first. -/
  piped : List Bytes
  time : Nat
  limit : Option Nat
  /-- The time until which commands in the background keep the streams open. -/
  lingering : Nat
  /-- The number of the process of the shell. -/
  process : Nat
  ignoredSignals : List Nat
  stopsOnFailure : Bool
  /-- Whether the words that are printed keep their codes. -/
  plainEcho : Bool

/-- Work of a shell. -/
abbrev Action := ExceptT Ending (StateM State)

/-- The microseconds that it takes to start a program. -/
def startTime : Nat :=
  1000

/-- Sets the status of the last command. -/
def setStatus (status : Nat) : Action Unit :=
  modify fun state => { state with status }

/-- Lets time pass, up to the limit. -/
def pass (duration : Nat) : Action Unit := do
  let state ← get
  let reached := state.time + duration
  if state.limit.any (· ≤ reached) then
    throw .expired
  else
    set { state with time := reached }

/-- The state after bytes were written to where a stream goes. -/
def State.writeTo (sink : Sink) (bytes : Bytes) (state : State) : State :=
  match sink with
  | .channel channel =>
      { state with written := ⟨channel, bytes⟩ :: state.written }
  | .pipe => { state with piped := bytes :: state.piped }
  | .file location =>
      match state.files.read location with
      | .ok held =>
          { state with
            files := state.files.put location (.file (held ++ bytes)) }
      | .error _ => state
  | .nowhere => state

/-- Writes to one of the streams. -/
def write (writing : Writing) : Action Unit :=
  modify fun state =>
    state.writeTo
      (match writing.channel with
      | .output => state.sinks.output
      | .errors => state.sinks.errors)
      writing.bytes

/-- Complains on the error stream. -/
def complain (text : Text) : Action Unit :=
  write ⟨.errors, (line text).utf8⟩

/-- Complains with the name of the shell and the line of the script. -/
def complainAt (number : Nat) (text : Text) : Action Unit := do
  let state ← get
  complain
    (state.name ++ ": ".toList ++ Nat.toDigits 10 number ++ ": ".toList ++ text)

/-- Runs a program with the streams of the shell. -/
def runProgram (program : Program) (words : List Text) : Action Unit := do
  let state ← get
  let report := program {
    arguments := words
    input := state.input
    directory := state.directory
    files := state.files }
  set { state with files := report.files }
  report.writings.forM write
  pass report.time
  setStatus report.status

/-- Does some work with other input. -/
def withInput (input : Bytes) (work : Action Unit) : Action Unit := do
  let held := (← get).input
  modify fun state => { state with input }
  work
  modify fun state => { state with input := held }

/-- Does some work apart: it can change the files, but no variable. -/
def apart (work : Action Unit) : Action Unit := do
  let held ← get
  tryCatch work fun ending =>
    match ending with
    | .exited status => setStatus status
    | _ => throw ending
  modify fun state => { state with
    directory := held.directory
    bindings := held.bindings
    arguments := held.arguments
    sinks := held.sinks }

/-- Does some work apart, and returns what it writes to its output. -/
def captured (work : Action Unit) : Action Bytes := do
  let held := (← get).piped
  modify fun state => { state with piped := [] }
  apart do
    modify fun state => { state with
      sinks := { state.sinks with output := .pipe } }
    work
  let bytes := (← get).piped.reverse.flatten
  modify fun state => { state with piped := held }
  pure bytes

/-- Does two things at the same time, of which the second reads what the first writes. -/
def joined (first second : Action Unit) : Action Unit := do
  let start := (← get).time
  let bytes ← captured first
  let firstEnd := (← get).time
  modify fun state => { state with time := start }
  apart (withInput bytes second)
  modify fun state => { state with time := max firstEnd state.time }

/-- Does some work in the background; its streams stay open until it ends. -/
def inBackground (work : Action Unit) : Action Unit := do
  let held ← get
  modify fun state => { state with limit := none, input := [] }
  tryCatch (apart work) fun ending =>
    match ending with
    | .expired => modify fun state => { state with time := state.time + forever }
    | _ => pure ()
  modify fun state => { state with
    time := held.time
    limit := held.limit
    input := held.input
    lingering := max held.lingering state.time
    status := 0 }

end ContractTemplates.Host.Shell
