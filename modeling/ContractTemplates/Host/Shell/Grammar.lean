import ContractTemplates.Host.Shell.Token

namespace ContractTemplates.Host.Shell

/-!
# The grammar of scripts

A script is a sequence of chains, a chain joins pipes by `&&` and `||`, and a
pipe joins commands by `|`. Keywords count only where a command may begin.

Each function reads a part of the tokens and returns the rest. The depth of
recursion is bounded by the number of tokens.
-/

/-- A command that has been read, and the tokens after it. -/
abbrev ParsedCommand := Except ScriptFault (Command × List Token)

/-- The keyword that tokens begin with. -/
def keyword? : List Token → Option Text
  | ⟨.word pieces true, _⟩ :: _ => Word.literal? pieces
  | _ => none

/-- The operator that tokens begin with. -/
def operator? : List Token → Option Text
  | ⟨.operator sign, _⟩ :: _ => some sign
  | _ => none

/-- The keywords that end a part of a command. -/
def closingWords : List Text :=
  ["then", "else", "elif", "fi", "do", "done", "esac", "\x7d"].map String.toList

/-- Whether a sequence of commands ends here. -/
def closes (tokens : List Token) : Bool :=
  tokens.isEmpty || (keyword? tokens).any closingWords.contains ||
    operator? tokens = some [')'] || operator? tokens = some [';', ';']

/-- The tokens after line ends. -/
def skipLineEnds (tokens : List Token) : List Token :=
  tokens.dropWhile fun token => token.kind = .lineEnd

/-- The fault of tokens that do not fit. -/
def misplaced : List Token → ScriptFault
  | [] => .endsEarly
  | ⟨.operator sign, _⟩ :: _ => .unexpected sign
  | ⟨.redirection _ sign, _⟩ :: _ => .unexpected sign
  | ⟨.lineEnd, _⟩ :: _ => .unexpected "newline".toList
  | ⟨.word pieces _, _⟩ :: _ =>
      .unexpected ((Word.literal? pieces).getD "word".toList)

/-- The tokens after a keyword. -/
def expect (word : String) (tokens : List Token) :
    Except ScriptFault (List Token) :=
  if keyword? tokens = some word.toList then
    .ok (tokens.drop 1)
  else
    .error (misplaced tokens)

/-- The direction of a sign, and the stream that it is about if none is named. -/
def directionOf (sign : Text) : Direction × Nat :=
  match String.ofList sign with
  | "<" => (.read, 0)
  | "<&" => (.along, 0)
  | ">>" => (.append, 1)
  | ">&" => (.along, 1)
  | _ => (.write, 1)

/-- The redirections that tokens begin with. -/
def redirections : List Token → List Redirection × List Token
  | ⟨.redirection descriptor sign, _⟩ :: ⟨.word pieces _, _⟩ :: rest =>
      let (direction, standard) := directionOf sign
      let (found, later) := redirections rest
      (⟨descriptor.getD standard, direction, pieces⟩ :: found, later)
  | tokens => ([], tokens)

/-- The variable that a word sets, and the word that it is set to. -/
def setting? (pieces : Word) : Option (Text × Word) :=
  match pieces with
  | .literal text :: rest =>
      match Text.cut '=' text with
      | (name, some value) =>
          if name ≠ [] ∧ name.all Text.isWordCharacter ∧
              ¬ name.head?.any Char.isDigit then
            some (name, if value = [] then rest else .literal value :: rest)
          else
            none
      | (_, none) => none
  | _ => none

/-- The parts of a simple command, up to the first token that is none of them. -/
def simpleParts (command : SimpleCommand) :
    List Token → SimpleCommand × List Token
  | ⟨.word pieces _, _⟩ :: rest =>
      match command.words, setting? pieces with
      | [], some found =>
          simpleParts { command with settings := command.settings ++ [found] }
            rest
      | _, _ =>
          simpleParts { command with words := command.words ++ [pieces] } rest
  | ⟨.redirection descriptor sign, _⟩ :: ⟨.word pieces _, _⟩ :: rest =>
      let (direction, standard) := directionOf sign
      simpleParts
        { command with
          redirections := command.redirections ++
            [⟨descriptor.getD standard, direction, pieces⟩] }
        rest
  | tokens => (command, tokens)

/-- A simple command. -/
def simpleCommand (tokens : List Token) : ParsedCommand :=
  let number := (tokens.head?.map Token.line).getD 1
  let (command, rest) := simpleParts ⟨number, [], [], []⟩ tokens
  if rest.length = tokens.length then
    .error (misplaced tokens)
  else
    .ok (.simple command, rest)

/-- The words of a loop, up to the end of the line or a semicolon. -/
def loopWords : List Token → List Word × List Token
  | ⟨.word pieces _, _⟩ :: rest =>
      let (words, later) := loopWords rest
      (pieces :: words, later)
  | tokens => ([], tokens)

/-- The forms of a branch, parted by bars. -/
def branchForms : List Token → List Word × List Token
  | ⟨.word pieces _, _⟩ :: ⟨.operator ['|'], _⟩ :: rest =>
      let (forms, later) := branchForms rest
      (pieces :: forms, later)
  | ⟨.word pieces _, _⟩ :: rest => ([pieces], rest)
  | tokens => ([], tokens)

/-- The tokens after a semicolon and line ends. -/
def skipBreak (tokens : List Token) : List Token :=
  if operator? tokens = some [';'] then
    skipLineEnds (tokens.drop 1)
  else
    skipLineEnds tokens

/-- A command with its redirections. -/
def redirected (command : Command) (tokens : List Token) :
    Command × List Token :=
  match redirections tokens with
  | ([], rest) => (command, rest)
  | (found, rest) => (.group false command found, rest)

mutual

/-- A sequence of chains, up to a token that ends it. -/
def sequence : Nat → List Token → ParsedCommand
  | 0, _ => .error .endsEarly
  | fuel + 1, tokens =>
      let start := skipLineEnds tokens
      if closes start then
        .ok (.nothing, start)
      else do
        let (first, rest) ← chain fuel start
        match rest with
        | ⟨.operator [';'], _⟩ :: later | ⟨.lineEnd, _⟩ :: later =>
            let (second, remainder) ← sequence fuel later
            .ok (.sequence first second, remainder)
        | ⟨.operator ['&'], _⟩ :: later =>
            let (second, remainder) ← sequence fuel later
            .ok (.sequence (.background first) second, remainder)
        | _ =>
            if closes rest then
              .ok (first, rest)
            else
              .error (misplaced rest)

/-- Pipes that are joined by conditions. -/
def chain : Nat → List Token → ParsedCommand
  | 0, _ => .error .endsEarly
  | fuel + 1, tokens => do
      let (first, rest) ← pipe fuel tokens
      chainAfter fuel first rest

/-- What is joined to a command by conditions. -/
def chainAfter : Nat → Command → List Token → ParsedCommand
  | 0, command, tokens => .ok (command, tokens)
  | fuel + 1, command, tokens =>
      if operator? tokens = some "&&".toList then do
        let (next, rest) ← pipe fuel (skipLineEnds (tokens.drop 1))
        chainAfter fuel (.conjunction command next) rest
      else if operator? tokens = some "||".toList then do
        let (next, rest) ← pipe fuel (skipLineEnds (tokens.drop 1))
        chainAfter fuel (.disjunction command next) rest
      else
        .ok (command, tokens)

/-- Commands that are joined to a pipe, possibly with its status negated. -/
def pipe : Nat → List Token → ParsedCommand
  | 0, _ => .error .endsEarly
  | fuel + 1, tokens =>
      if keyword? tokens = some ['!'] then do
        let (command, rest) ← pipe fuel (tokens.drop 1)
        .ok (.negation command, rest)
      else do
        let (first, rest) ← command fuel tokens
        if operator? rest = some ['|'] then
          let (second, remainder) ←
            pipe fuel (skipLineEnds (rest.drop 1))
          .ok (.pipe first second, remainder)
        else
          .ok (first, rest)

/-- The rest of a condition, after its first keyword. -/
def choice : Nat → List Token → ParsedCommand
  | 0, _ => .error .endsEarly
  | fuel + 1, tokens => do
      let (condition, afterCondition) ← sequence fuel tokens
      let (consequence, rest) ←
        sequence fuel (← expect "then" afterCondition)
      if keyword? rest = some "elif".toList then
        let (alternative, remainder) ← choice fuel (rest.drop 1)
        .ok (.choice condition consequence alternative, remainder)
      else if keyword? rest = some "else".toList then
        let (alternative, afterAlternative) ← sequence fuel (rest.drop 1)
        .ok (.choice condition consequence alternative,
          ← expect "fi" afterAlternative)
      else
        .ok (.choice condition consequence .nothing, ← expect "fi" rest)

/-- The branches of a selection, after the subject. -/
def branches : Nat → List Token → ParsedCommand
  | 0, _ => .error .endsEarly
  | fuel + 1, tokens =>
      let start := skipLineEnds tokens
      if keyword? start = some "esac".toList then
        .ok (.nothing, start.drop 1)
      else do
        let opened :=
          if operator? start = some ['('] then start.drop 1 else start
        let (forms, afterForms) := branchForms opened
        if operator? afterForms ≠ some [')'] then
          .error (misplaced afterForms)
        let (inside, afterInside) ← sequence fuel (afterForms.drop 1)
        let next :=
          if operator? afterInside = some [';', ';'] then
            afterInside.drop 1
          else
            afterInside
        if next.length = afterInside.length ∧
            keyword? afterInside ≠ some "esac".toList then
          .error (misplaced afterInside)
        let (otherwise, rest) ← branches fuel next
        .ok (.branch forms inside otherwise, rest)

/-- The body of a loop. -/
def body : Nat → List Token → ParsedCommand
  | 0, _ => .error .endsEarly
  | fuel + 1, tokens => do
      let (inside, rest) ← sequence fuel (← expect "do" tokens)
      .ok (inside, ← expect "done" rest)

/-- One command. -/
def command : Nat → List Token → ParsedCommand
  | 0, _ => .error .endsEarly
  | fuel + 1, tokens =>
      let rest := tokens.drop 1
      if operator? tokens = some ['('] then do
        let (inside, later) ← sequence fuel rest
        if operator? later = some [')'] then
          let (found, remainder) := redirections (later.drop 1)
          .ok (.group true inside found, remainder)
        else
          .error (misplaced later)
      else
        match (keyword? tokens).map String.ofList with
        | some "if" => do
            let (found, later) ← choice fuel rest
            .ok (redirected found later)
        | some "while" => do
            let (condition, afterCondition) ← sequence fuel rest
            let (inside, later) ← body fuel afterCondition
            .ok (redirected (.loop false condition inside) later)
        | some "until" => do
            let (condition, afterCondition) ← sequence fuel rest
            let (inside, later) ← body fuel afterCondition
            .ok (redirected (.loop true condition inside) later)
        | some "for" =>
            match keyword? rest with
            | none => .error (misplaced rest)
            | some name => do
                let afterName := skipLineEnds (rest.drop 1)
                let (words, afterWords) :=
                  if keyword? afterName = some "in".toList then
                    let (words, later) := loopWords (afterName.drop 1)
                    (some words, later)
                  else
                    (none, afterName)
                let (inside, later) ← body fuel (skipBreak afterWords)
                .ok (redirected (.each name words inside) later)
        | some "case" =>
            match rest with
            | ⟨.word subject _, _⟩ :: afterSubject => do
                let (found, later) ←
                  branches fuel
                    (← expect "in" (skipLineEnds afterSubject))
                .ok (redirected (.select subject found) later)
            | _ => .error (misplaced rest)
        | some "\x7b" => do
            let (inside, later) ← sequence fuel rest
            .ok (redirected inside (← expect "\x7d" later))
        | _ =>
            if closes tokens then
              .error (misplaced tokens)
            else
              simpleCommand tokens

end

/-- The command that a script describes. -/
def ofScript (script : Text) : Except ScriptFault Command := do
  let found ← tokens script
  let (command, rest) ← sequence (8 * found.length + 8) found
  if rest = [] then
    .ok command
  else
    .error (misplaced rest)

end ContractTemplates.Host.Shell
