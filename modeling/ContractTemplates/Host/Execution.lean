import ContractTemplates.Compile.Job
import ContractTemplates.Host.Shell.Evaluation

namespace ContractTemplates.Host

/-!
# Execution of commands

A command is a list of words. The first one is looked up: it may be the name of
a program or of the shell, or the path of a file, and files of the rehearsal
host are never executable. A command that is started works until it ends or
until a limit of time is reached.
-/

/-- What a command has done within a limit of time. -/
structure Execution where
  /-- The status, if the command has ended. -/
  status : Option Int
  /-- Whether the streams are closed, because all that it has left behind has ended too. -/
  isClosed : Bool
  writings : List Writing
  files : Files
  /-- The time until which commands in the background keep the streams open. -/
  heldUntil : Nat

/-- Whether a word is the name of a program or of the shell. -/
def isKnown (word : Text) : Bool :=
  (program? word).isSome || Shell.shellNames.contains word

/-- Whether a word is looked up among the programs. -/
def isPlainName (word : Text) : Bool :=
  '/' ∉ word

/-- Whether a command of this first word can be started. -/
def isInstalled (word : Text) : Bool :=
  isKnown (Shell.programName word)

/-- What becomes of the start of a command that is not installed. -/
def launchOther (word : Text) (directory : Location) (files : Files) :
    Launch :=
  let location := (Path.ofText word).resolve directory
  if word = [] ∨ word = ['.'] ∨ word = ['.', '.'] then
    .refused .denied word
  else if isPlainName word then
    .missing
  else
    match files.parentFault? location, files.find? location with
    | some .missing, _ => .missing
    | some fault, _ => .refused fault word
    | none, some _ => .refused .denied word
    | none, none => .missing

/-- What becomes of the start of a command in a directory. -/
def launch (word : Text) (directory : Location) (files : Files) : Launch :=
  match files.parentFault? directory, files.find? directory with
  | none, some .directory =>
      if isInstalled word then
        .started
      else
        launchOther word directory files
  | none, some (.file _) => .refused .notDirectory (placeText directory)
  | some .notDirectory, _ => .refused .notDirectory (placeText directory)
  | _, _ => .missing

namespace Shell

/-- The number of nested steps that a script may need. -/
def stepLimit : Nat :=
  4000

/-- The number of the first process. -/
def firstProcess : Nat :=
  100

/-- The state before a shell is called. -/
def State.start (limit : Option Nat) (directory : Location) (files : Files) :
    State where
  files
  directory
  bindings := []
  arguments := []
  name := []
  status := 0
  input := []
  sinks := ⟨.channel .output, .channel .errors⟩
  written := []
  piped := []
  time := 0
  limit
  lingering := 0
  process := firstProcess
  ignoredSignals := []
  stopsOnFailure := false
  plainEcho := false

/-- The status of a shell whose work has ended, or none if it was stopped. -/
def finalStatus (ending : Except Ending Unit) (state : State) : Option Int :=
  match ending with
  | .ok () => some state.status
  | .error (.exited status) => some status
  | .error (.killed signal) => some (-(signal : Int))
  | .error .expired => none
  | .error _ => some 0

/-- Runs a shell that is called with words. -/
def execute
    (limit : Option Nat)
    (name : Text)
    (words : List Text)
    (directory : Location)
    (files : Files) :
    Execution :=
  let start := (State.start limit directory files).called name words
  let work : Action Unit := do
    pass startTime
    evaluateCall stepLimit name words
  let (ending, state) := work.run.run start
  let isWithin (time : Nat) : Bool := limit.all fun reached => time < reached
  {
    status := if isWithin state.time then finalStatus ending state else none
    isClosed := isWithin state.lingering
    writings := state.written.reverse
    files := state.files
    heldUntil := state.lingering }

end Shell

/-- Runs a program for as long as a limit allows. -/
def executeProgram
    (program : Program)
    (limit : Option Nat)
    (words : List Text)
    (directory : Location)
    (files : Files) :
    Execution :=
  if limit.any (· ≤ Shell.startTime) then
    ⟨none, false, [], files, 0⟩
  else
    let report := program ⟨words, [], directory, files⟩
    let ended := Shell.startTime + report.time
    {
      status := if limit.any (· ≤ ended) then none else some report.status
      isClosed := true
      writings := report.writings
      files := report.files
      heldUntil := 0 }

/-- Runs a command that can be started. -/
def execute
    (limit : Option Nat)
    (words : List Text)
    (directory : Location)
    (files : Files) :
    Execution :=
  let name := words.headD []
  let arguments := words.drop 1
  if Shell.shellNames.contains (Shell.programName name) then
    Shell.execute limit name arguments directory files
  else
    match program? (Shell.programName name) with
    | some program => executeProgram program limit arguments directory files
    | none => ⟨some missingStatus, true, [], files, 0⟩

end ContractTemplates.Host
