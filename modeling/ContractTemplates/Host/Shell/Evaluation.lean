import ContractTemplates.Host.Shell.Expansion

namespace ContractTemplates.Host.Shell

/-!
# Running scripts

Commands are run one after the other, and the status of the last one counts. A
name that the shell does not know itself is that of a program. The shell can be
left at any point, also by a signal that it sends to itself.

The number of nested steps is bounded; a script that needs more of them is taken
for one that does not end.
-/

/-- The names of the shell itself. -/
def shellNames : List Text :=
  ["sh", "dash", "bash"].map String.toList

/-- Signals and their numbers. -/
def signals : List (String × Nat) := [
  ("HUP", 1), ("INT", 2), ("QUIT", 3), ("ILL", 4), ("TRAP", 5), ("ABRT", 6),
  ("BUS", 7), ("FPE", 8), ("KILL", 9), ("USR1", 10), ("SEGV", 11),
  ("USR2", 12), ("PIPE", 13), ("ALRM", 14), ("TERM", 15), ("CHLD", 17),
  ("CONT", 18), ("STOP", 19), ("TSTP", 20), ("TTIN", 21), ("TTOU", 22),
  ("URG", 23), ("XCPU", 24), ("XFSZ", 25), ("VTALRM", 26), ("PROF", 27),
  ("WINCH", 28), ("IO ", 29), ("PWR", 30), ("SYS", 31)]

/-- Signals that do nothing to a process. -/
def harmlessSignals : List Nat :=
  [0, 17, 18, 23, 28]

/-- Signals that stop a process until it is continued. -/
def stoppingSignals : List Nat :=
  [19, 20, 21, 22]

/-- The number of a signal that is named by a number or a word. -/
def signalOf? (word : Text) : Option Nat :=
  let name := (Text.after? "SIG".toList word).getD word
  (Text.toNat? word).or
    ((signals.find? fun entry => entry.1.toList = name).map Prod.snd)

/-- The signal and the targets of a call for sending signals. -/
def signalCall (words : List Text) : Option Nat × List Text :=
  match words with
  | ['-', 's'] :: name :: targets => (signalOf? name, targets)
  | ['-', '-'] :: targets => (some 15, targets)
  | ('-' :: name) :: targets => (signalOf? name, targets)
  | targets => (some 15, targets)

/-- Sends a signal to the shell itself. -/
def receive (signal : Nat) : Action Unit := do
  if harmlessSignals.contains signal then
    setStatus 0
  else if stoppingSignals.contains signal then
    throw .expired
  else if signal ≠ 9 ∧ (← get).ignoredSignals.contains signal then
    setStatus 0
  else
    throw (.killed signal)

/-- Sends signals. -/
def sendSignals (number : Nat) (words : List Text) : Action Unit := do
  let state ← get
  match signalCall words with
  | (some signal, targets) =>
      if targets.contains (Nat.toDigits 10 state.process) then
        receive signal
      else
        complainAt number "kill: No such process".toList
        setStatus 1
  | (none, _) =>
      complainAt number "kill: Illegal option".toList
      setStatus 2

/-- Goes to another directory. -/
def changeDirectory (number : Nat) (words : List Text) : Action Unit := do
  let state ← get
  let word := words.headD ['/']
  let location := (Path.ofText word).resolve state.directory
  if state.files.isDirectory location then
    set { state with directory := location, status := 0 }
  else
    complainAt number ("cd: can't cd to ".toList ++ word)
    setStatus 2

/-- Reads a line into variables; the last one takes the rest of the line. -/
def readLine (names : List Text) : Action Unit := do
  let state ← get
  match piecesOf state.input with
  | [] | [[]] =>
      setStatus 1
  | first :: rest =>
      let words := (Words.divide ⟨[], none⟩ (Text.ofUtf8Lossy first)).toList
      let values := names.zipIdx.map fun (name, position) =>
        if position + 1 = names.length then
          (name, Text.joined [' '] (words.drop position))
        else
          (name, (words[position]?).getD [])
      set { state with
        bindings := values.foldl
          (fun held (name, value) => Entries.put name value held)
          state.bindings
        input := state.input.drop (first.length + 1)
        status := if rest = [] then 1 else 0 }

/-- Sets options or the arguments of the script. -/
def setOptions (words : List Text) : Action Unit := do
  match words with
  | ['-', 'e'] :: _ => modify fun state => { state with stopsOnFailure := true }
  | ['+', 'e'] :: _ => modify fun state => { state with stopsOnFailure := false }
  | ['-', '-'] :: arguments => modify fun state => { state with arguments }
  | ('-' :: _) :: _ | ('+' :: _) :: _ | [] => pure ()
  | arguments => modify fun state => { state with arguments }
  setStatus 0

/-- Ignores signals, or minds them again. -/
def setTrap (words : List Text) : Action Unit := do
  match words with
  | [] :: names =>
      modify fun state => { state with
        ignoredSignals := names.filterMap signalOf? ++ state.ignoredSignals }
  | ['-'] :: names =>
      modify fun state => { state with
        ignoredSignals := state.ignoredSignals.filter fun signal =>
          ¬ (names.filterMap signalOf?).contains signal }
  | _ => pure ()
  setStatus 0

/-- Sets the variables that words describe. -/
def exportVariables (words : List Text) : Action Unit := do
  let values := words.filterMap fun word =>
    match Text.cut '=' word with
    | (name, some value) => some (name, value)
    | (_, none) => none
  modify fun state => { state with
    bindings := values.foldl
      (fun held (name, value) => Entries.put name value held)
      state.bindings
    status := 0 }

/-- Leaves the shell with the status that a word names, or with that of the last command. -/
def leave (number : Nat) (name : String) (words : List Text) : Action Unit := do
  match words with
  | word :: _ =>
      match Text.toNat? word with
      | some status => throw (.exited (status % 256))
      | none => do
          complainAt number (name.toList ++ ": Illegal number: ".toList ++ word)
          throw (.exited 2)
  | [] => throw (.exited (← get).status)

/-- Lets the time pass until all commands in the background have ended. -/
def waitForAll : Action Unit := do
  let state ← get
  pass (state.lingering - state.time)
  setStatus 0

/-- What the shell does itself under a name, if it does anything. -/
def ownCommand? (number : Nat) (name : Text) (words : List Text) :
    Option (Action Unit) :=
  match String.ofList name with
  | ":" => some (setStatus 0)
  | "true" => some (setStatus 0)
  | "false" => some (setStatus 1)
  | "exit" => some (leave number "exit" words)
  | "return" => some (leave number "return" words)
  | "break" => some (throw .loopLeft)
  | "continue" => some (throw .roundLeft)
  | "kill" => some (sendSignals number words)
  | "cd" => some (changeDirectory number words)
  | "read" => some (readLine (words.filter fun word => ¬ isOption word))
  | "set" => some (setOptions words)
  | "trap" => some (setTrap words)
  | "export" => some (exportVariables words)
  | "wait" => some waitForAll
  | "umask" | "ulimit" | "unset" => some (setStatus 0)
  | "shift" => some do
      modify fun state => { state with
        arguments := state.arguments.drop 1
        status := 0 }
  | "echo" => some do
      let state ← get
      runProgram (if state.plainEcho then echo else echoWithEscapes) words
  | "printf" => some do
      if words = [] then
        complainAt number "printf: usage: printf format [arg ...]".toList
        setStatus 2
      else
        runProgram printFormatted words
  | "pwd" => some (runProgram printPlace words)
  | "test" => some (runProgram test words)
  | "[" => some (runProgram bracketTest words)
  | _ => none

/-- Commands whose failing redirection ends the shell. -/
def isSpecial (name : Text) : Bool :=
  ([":", "exit", "exec", "export", "set", "shift", "trap", "return", "break",
    "continue", "eval", "unset"].map String.toList).contains name

/-- Where programs are kept. -/
def programDirectories : List Text :=
  ["/bin/", "/usr/bin/", "/usr/local/bin/"].map String.toList

/-- The name of a program without the directory in which programs are kept. -/
def programName (word : Text) : Text :=
  (programDirectories.findSome? fun directory =>
    Text.after? directory word).getD word

/-- The reason why a file cannot be opened. -/
def openReason (absent : String) : FileFault → Text
  | .missing => absent.toList
  | .notDirectory => absent.toList
  | fault => fault.reason

/-- The stream that a redirection copies. -/
def copiedSink (sinks : Sinks) (target : Text) : Sink :=
  if target = ['1'] then
    sinks.output
  else if target = ['2'] then
    sinks.errors
  else
    .nowhere

/-- The sinks with one of them replaced. -/
def Sinks.with (sinks : Sinks) (descriptor : Nat) (sink : Sink) : Sinks :=
  if descriptor = 2 then
    { sinks with errors := sink }
  else if descriptor = 1 then
    { sinks with output := sink }
  else
    sinks

/-- Opens a file for writing, and returns where the stream goes. -/
def openSink (keeps : Bool) (target : Text) (state : State) :
    Except Text (Sink × Files) :=
  let location := (Path.ofText target).resolve state.directory
  if location = Call.emptyFile then
    .ok (.nowhere, state.files)
  else if target = "/dev/stdout".toList then
    .ok (state.sinks.output, state.files)
  else if target = "/dev/stderr".toList then
    .ok (state.sinks.errors, state.files)
  else
    let held :=
      if keeps then
        ((state.files.read location).toOption).getD []
      else
        []
    let opened :=
      if target = [] then
        .error .missing
      else
        state.files.write location held
    match opened with
    | .ok files => .ok (.file location, files)
    | .error fault =>
        .error
          ("cannot create ".toList ++ target ++ ": ".toList ++
            openReason "Directory nonexistent" fault)

/-- Opens a file for reading. -/
def openInput (target : Text) (state : State) : Except Text Bytes :=
  match Call.read ⟨[], [], state.directory, state.files⟩ target with
  | .ok content => .ok content
  | .error .isDirectory => .ok []
  | .error fault =>
      .error
        ("cannot open ".toList ++ target ++ ": ".toList ++
          openReason "No such file" fault)

/-- The state with a stream redirected, or the complaint about it. -/
def State.redirect (redirection : Redirection) (target : Text)
    (state : State) : Except Text State :=
  let output := fun (keeps : Bool) =>
    (openSink keeps target state).map fun (sink, files) =>
      { state with
        files
        sinks := state.sinks.with redirection.descriptor sink }
  match redirection.direction with
  | .read =>
      (openInput target state).map fun input => { state with input }
  | .write => output false
  | .append => output true
  | .along =>
      .ok { state with
        sinks :=
          state.sinks.with redirection.descriptor
            (copiedSink state.sinks target) }

/-- Redirects streams in order; returns the complaint about the first failure. -/
def redirectAll (run : Text → Action Bytes) :
    List Redirection → Action (Option Text)
  | [] => pure none
  | redirection :: rest => do
      let target ← expandText run redirection.target
      match (← get).redirect redirection target with
      | .ok state => do
          set state
          redirectAll run rest
      | .error complaint => pure (some complaint)

/-- Does some work with streams redirected, unless that fails. -/
def withRedirections
    (run : Text → Action Bytes)
    (number : Nat)
    (special : Bool)
    (redirections : List Redirection)
    (work : Action Unit) :
    Action Unit := do
  let held ← get
  match ← redirectAll run redirections with
  | none => do
      work
      modify fun state => { state with sinks := held.sinks }
      if redirections.any fun redirection => redirection.direction = .read then
        modify fun state => { state with input := held.input }
  | some complaint => do
      modify fun state => { state with sinks := held.sinks, input := held.input }
      complainAt number complaint
      if special then
        throw (.exited 2)
      else
        setStatus 2

/-- Runs a program that is found by a word, or complains that there is none. -/
def runNamed (number : Nat) (lead word : Text) (words : List Text) :
    Action Unit := do
  match program? (programName word) with
  | some program => do
      pass startTime
      runProgram program words
  | none => do
      let state ← get
      let location := (Path.ofText word).resolve state.directory
      if '/' ∈ word ∧ (state.files.find? location).isSome then
        complainAt number (lead ++ word ++ ": Permission denied".toList)
        setStatus 126
      else
        complainAt number (lead ++ word ++ ": not found".toList)
        setStatus 127

/-- Sets variables to the texts of words. -/
def setVariables (run : Text → Action Bytes) :
    List (Text × Word) → Action Unit
  | [] => pure ()
  | (name, word) :: rest => do
      let value ← expandText run word
      modify fun state => { state with
        bindings := Entries.put name value state.bindings }
      setVariables run rest

/-- Leaves the shell after a failure, where that is asked for. -/
def mindFailure (tested : Bool) : Action Unit := do
  let state ← get
  if state.stopsOnFailure ∧ ¬ tested ∧ state.status ≠ 0 then
    throw (.exited state.status)

/-- Does a round of a loop; returns whether the loop goes on. -/
def inLoop (work : Action Bool) : Action Bool := do
  let held ← get
  tryCatch work fun ending =>
    match ending with
    | .loopLeft => do
        modify fun state => { state with sinks := held.sinks, status := 0 }
        pure false
    | .roundLeft => do
        modify fun state => { state with sinks := held.sinks, status := 0 }
        pure true
    | _ => throw ending

/-- Goes over values until a round leaves the loop. -/
def overValues (round : Text → Action Bool) : List Text → Action Unit
  | [] => pure ()
  | value :: rest => do
      if ← inLoop (round value) then
        overValues round rest

/-- Whether a script is run for a word. -/
def Word.runsScript (word : Word) : Bool :=
  word.any fun piece =>
    match piece with
    | .output _ _ => true
    | _ => false

/-- Whether a script is run for the words or the settings of a command. -/
def SimpleCommand.runsScript (simple : SimpleCommand) : Bool :=
  simple.words.any Word.runsScript ||
    simple.settings.any fun setting => Word.runsScript setting.2

/-- What a call of a shell is to do. -/
inductive Assignment where
  | script (text : Text)
  | file (word : Text)
  | nothing
  deriving DecidableEq, Repr

/-- The options, the assignment, the name and the arguments of a call of a shell. -/
def assignmentOf (name : Text) :
    List Text → List Char × Assignment × Text × List Text
  | [] => ([], .nothing, name, [])
  | word :: rest =>
      if isOption word then
        let letters := word.drop 1
        if letters.contains 'c' then
          match rest with
          | [] => (letters, .nothing, name, [])
          | text :: [] => (letters, .script text, name, [])
          | text :: newName :: arguments =>
              (letters, .script text, newName, arguments)
        else
          let (more, assignment) := assignmentOf name rest
          (letters ++ more, assignment)
      else
        ([], .file word, word, rest)

/-- The state of a shell that is called with words. -/
def State.called (name : Text) (words : List Text) (state : State) : State :=
  let (letters, _, newName, arguments) := assignmentOf name words
  { state with
    bindings := []
    arguments
    name := newName
    status := 0
    process := state.process + 1
    stopsOnFailure := letters.contains 'e'
    plainEcho := programName name = "bash".toList }

/-- The script of a call, or the complaint that there is none. -/
def scriptOf (state : State) : Assignment → Except Text Text
  | .script text => .ok text
  | .nothing => .ok (Text.ofUtf8Lossy state.input)
  | .file word =>
      match Call.read ⟨[], [], state.directory, state.files⟩ word with
      | .ok content => .ok (Text.ofUtf8Lossy content)
      | .error fault =>
          .error
            ("0: cannot open ".toList ++ word ++ ": ".toList ++
              openReason "No such file" fault)

mutual

/-- Runs a command; `tested` says that its failure is only asked for. -/
def evaluate : Nat → Bool → Command → Action Unit
  | 0, _, _ => throw .expired
  | fuel + 1, tested, command =>
      match command with
      | .nothing => pure ()
      | .simple simple => do
          evaluateSimple fuel simple
          mindFailure tested
      | .pipe first second => do
          joined (evaluate fuel true first) (evaluate fuel tested second)
          mindFailure tested
      | .negation inner => do
          evaluate fuel true inner
          modify fun state =>
            { state with status := if state.status = 0 then 1 else 0 }
      | .sequence first second => do
          evaluate fuel tested first
          evaluate fuel tested second
      | .conjunction first second => do
          evaluate fuel true first
          if (← get).status = 0 then
            evaluate fuel tested second
      | .disjunction first second => do
          evaluate fuel true first
          if (← get).status ≠ 0 then
            evaluate fuel tested second
      | .choice condition consequence alternative => do
          evaluate fuel true condition
          if (← get).status = 0 then
            evaluate fuel tested consequence
          else do
            setStatus 0
            evaluate fuel tested alternative
      | .loop untilTrue condition body => do
          let goesOn ← inLoop do
            evaluate fuel true condition
            if ((← get).status = 0) != untilTrue then
              evaluate fuel tested body
              pure true
            else
              setStatus 0
              pure false
          if goesOn then
            evaluate fuel tested (.loop untilTrue condition body)
      | .each name words body => do
          let run := fun script => runScript fuel script
          let values ←
            match words with
            | some words => expandWords run words
            | none => pure (← get).arguments
          setStatus 0
          overValues
            (fun value => do
              modify fun state => { state with
                bindings := Entries.put name value state.bindings }
              evaluate fuel tested body
              pure true)
            values
      | .select subject branches => do
          let text ← expandText (fun script => runScript fuel script) subject
          setStatus 0
          evaluateBranches fuel tested text branches
      | .branch _ body _ => evaluate fuel tested body
      | .group isApart body redirections =>
          withRedirections (fun script => runScript fuel script) 1 false
            redirections
            (if isApart then
              apart (evaluate fuel tested body)
            else
              evaluate fuel tested body)
      | .background body => inBackground (evaluate fuel tested body)

/-- Runs the first branch that has the form of a text. -/
def evaluateBranches : Nat → Bool → Text → Command → Action Unit
  | 0, _, _, _ => throw .expired
  | fuel + 1, tested, text, branches =>
      match branches with
      | .branch forms body otherwise => do
          let texts ← forms.mapM
            (expandText fun script => runScript fuel script)
          if texts.any fun form => hasForm form text then
            evaluate fuel tested body
          else
            evaluateBranches fuel tested text otherwise
      | _ => pure ()

/-- Runs a simple command. -/
def evaluateSimple : Nat → SimpleCommand → Action Unit
  | 0, _ => throw .expired
  | fuel + 1, simple => do
      let run := fun script => runScript fuel script
      setVariables run simple.settings
      match ← expandWords run simple.words with
      | [] =>
          withRedirections run simple.line false simple.redirections
            (if simple.runsScript then pure () else setStatus 0)
      | name :: words =>
          if name = "exec".toList ∧ words = [] then do
            match ← redirectAll run simple.redirections with
            | none => setStatus 0
            | some complaint => do
                complainAt simple.line complaint
                throw (.exited 2)
          else
            withRedirections run simple.line (isSpecial name)
              simple.redirections (evaluateNamed fuel simple.line name words)

/-- Runs what a name stands for. -/
def evaluateNamed : Nat → Nat → Text → List Text → Action Unit
  | 0, _, _, _ => throw .expired
  | fuel + 1, number, name, words =>
      match ownCommand? number name words with
      | some action => action
      | none =>
          if shellNames.contains (programName name) then do
            pass startTime
            evaluateShell fuel name words
          else if name = "exec".toList then do
            match words with
            | [] => setStatus 0
            | word :: rest => do
                if shellNames.contains (programName word) then
                  evaluateShell fuel word rest
                else
                  runNamed number "exec: ".toList word rest
                throw (.exited (← get).status)
          else if name = "eval".toList then do
            let script := Text.joined [' '] words
            match ofScript script with
            | .ok command => evaluate fuel false command
            | .error fault => do
                complainAt number fault.message
                throw (.exited 2)
          else if name = "env".toList ∨ name = "command".toList then
            match words with
            | [] => setStatus 0
            | word :: rest => evaluateNamed fuel number word rest
          else
            runNamed number [] name words

/-- Runs a shell inside of the shell. -/
def evaluateShell : Nat → Text → List Text → Action Unit
  | 0, _, _ => throw .expired
  | fuel + 1, name, words => do
      let held ← get
      set (held.called name words)
      apart do
        tryCatch (evaluateCall fuel name words) fun ending =>
          match ending with
          | .killed signal => do
              if signal = 9 then
                complain "Killed".toList
              else if signal = 15 then
                complain "Terminated".toList
              setStatus (128 + signal)
          | .loopLeft | .roundLeft => setStatus 0
          | _ => throw ending
      modify fun state => { state with
        bindings := held.bindings
        arguments := held.arguments
        name := held.name
        process := held.process
        stopsOnFailure := held.stopsOnFailure
        plainEcho := held.plainEcho }

/-- Does what a call of a shell is to do. -/
def evaluateCall : Nat → Text → List Text → Action Unit
  | 0, _, _ => throw .expired
  | fuel + 1, name, words => do
      match scriptOf (← get) (assignmentOf name words).2.1 with
      | .error complaint => do
          complain (name ++ ": ".toList ++ complaint)
          throw (.exited 2)
      | .ok script =>
          match ofScript script with
          | .ok command => evaluate fuel false command
          | .error fault => do
              complainAt 1 fault.message
              throw (.exited 2)

/-- Runs a script apart, and returns what it prints. -/
def runScript : Nat → Text → Action Bytes
  | 0, _ => throw .expired
  | fuel + 1, script =>
      match ofScript script with
      | .ok command => captured (evaluate fuel false command)
      | .error fault => do
          complainAt 1 fault.message
          throw (.exited 2)

end

end ContractTemplates.Host.Shell
