import ContractTemplates.Host.Shell.State

namespace ContractTemplates.Host.Shell

/-!
# Expansion of words

Parameters in words are replaced by their values, and scripts by what they
print. A value that does not stand between double quotes is divided at blanks,
so one word can become several or none.
-/

/-- What a piece of a word is replaced by. -/
inductive Expansion where
  | whole (text : Text)
  /-- Text that is divided at blanks. -/
  | divided (text : Text)
  /-- Several texts that stay apart. -/
  | several (texts : List Text)
  deriving DecidableEq, Repr

/-- The value of a parameter. -/
def State.parameter (state : State) (name : Text) : Text :=
  match String.ofList name with
  | "?" => Nat.toDigits 10 state.status
  | "#" => Nat.toDigits 10 state.arguments.length
  | "$" => Nat.toDigits 10 state.process
  | "@" | "*" => Text.joined [' '] state.arguments
  | "PWD" => placeText state.directory
  | _ =>
      match Text.toNat? name with
      | some 0 => state.name
      | some position => (state.arguments[position - 1]?).getD []
      | none => (Entries.find? state.bindings name).getD []

/-- What a parameter is replaced by. -/
def State.expandParameter (state : State) (name : Text) (quoted : Bool) :
    Expansion :=
  if quoted then
    if name = ['@'] then
      .several state.arguments
    else
      .whole (state.parameter name)
  else
    .divided (state.parameter name)

/-- The text without line feeds at its end. -/
def withoutFinalLineFeeds (text : Text) : Text :=
  (text.reverse.dropWhile (· = '\n')).reverse

/-- The integer that a name in a sum stands for. -/
def State.valueOf (state : State) (name : Text) : Int :=
  integerOf (state.parameter name)

mutual

/-- The value of products with plus and minus signs between them. -/
def sumOf (state : State) : Nat → Text → Int × Text
  | 0, text => (0, text)
  | fuel + 1, text =>
      let (first, rest) := productOf state fuel text
      sumAfter state fuel first rest

/-- What is added to a value, or subtracted from it. -/
def sumAfter (state : State) : Nat → Int → Text → Int × Text
  | 0, value, text => (value, text)
  | fuel + 1, value, text =>
      match text with
      | '+' :: rest =>
          let (next, later) := productOf state fuel rest
          sumAfter state fuel (value + next) later
      | '-' :: rest =>
          let (next, later) := productOf state fuel rest
          sumAfter state fuel (value - next) later
      | _ => (value, text)

/-- The value of factors with signs between them. -/
def productOf (state : State) : Nat → Text → Int × Text
  | 0, text => (0, text)
  | fuel + 1, text =>
      let (first, rest) := factorOf state fuel text
      productAfter state fuel first rest

/-- What a value is multiplied with, or divided by. -/
def productAfter (state : State) : Nat → Int → Text → Int × Text
  | 0, value, text => (value, text)
  | fuel + 1, value, text =>
      match text with
      | '*' :: rest =>
          let (next, later) := factorOf state fuel rest
          productAfter state fuel (value * next) later
      | '/' :: rest =>
          let (next, later) := factorOf state fuel rest
          productAfter state fuel (Int.tdiv value next) later
      | '%' :: rest =>
          let (next, later) := factorOf state fuel rest
          productAfter state fuel (Int.tmod value next) later
      | _ => (value, text)

/-- The value of a numeral, a name, or a sum between parentheses. -/
def factorOf (state : State) : Nat → Text → Int × Text
  | 0, text => (0, text)
  | fuel + 1, text =>
      match text with
      | '-' :: rest =>
          let (value, later) := factorOf state fuel rest
          (-value, later)
      | '(' :: rest =>
          let (value, later) := sumOf state fuel rest
          (value, later.drop 1)
      | '$' :: rest => factorOf state fuel rest
      | c :: _ =>
          let word := text.takeWhile Text.isWordCharacter
          let later := text.dropWhile Text.isWordCharacter
          (if c.isDigit then integerOf word else state.valueOf word, later)
      | [] => (0, [])

end

/-- The numeral of the value of a sum. -/
def State.sumText (state : State) (expression : Text) : Text :=
  let text := expression.filter fun c => ¬ (c = ' ' ∨ c = '\t' ∨ c = '\n')
  Text.ofInt (sumOf state (5 * text.length + 5) text).1

/-- What a piece is replaced by; scripts are run by the given function. -/
def expandPiece (run : Text → Action Bytes) : Piece → Action Expansion
  | .literal text => pure (.whole text)
  | .parameter name quoted => do
      pure ((← get).expandParameter name quoted)
  | .sum expression quoted => do
      let text := (← get).sumText expression
      pure (if quoted then .whole text else .divided text)
  | .output script quoted => do
      let text := withoutFinalLineFeeds (Text.ofUtf8Lossy (← run script))
      pure (if quoted then .whole text else .divided text)

/-- Finished words, the latest first, and the word that is being put together. -/
structure Words where
  finished : List Text
  current : Option Text
  deriving DecidableEq, Repr

namespace Words

/-- Puts text to the current word. -/
def append (words : Words) (text : Text) : Words :=
  { words with current := some (words.current.getD [] ++ text) }

/-- Finishes the current word, if there is one. -/
def finish (words : Words) : Words :=
  match words.current with
  | some word => ⟨word :: words.finished, none⟩
  | none => words

/-- Puts text that is divided at blanks. -/
def divide (words : Words) (text : Text) : Words :=
  text.foldl
    (fun words c =>
      if c = ' ' ∨ c = '\t' ∨ c = '\n' then words.finish else words.append [c])
    words

/-- Puts several texts, with the end of a word between neighbours. -/
def appendEach (words : Words) : List Text → Words
  | [] => words
  | [text] => words.append text
  | text :: rest => ((words.append text).finish).appendEach rest

/-- Puts what a piece is replaced by. -/
def expand (words : Words) : Expansion → Words
  | .whole text => words.append text
  | .divided text => words.divide text
  | .several texts => words.appendEach texts

/-- All words in order. -/
def toList (words : Words) : List Text :=
  words.finish.finished.reverse

end Words

/-- The words that one word becomes. -/
def expandWord (run : Text → Action Bytes) (word : Word) :
    Action (List Text) := do
  let expansions ← word.mapM (expandPiece run)
  pure (expansions.foldl Words.expand ⟨[], none⟩).toList

/-- The words that several words become. -/
def expandWords (run : Text → Action Bytes) (words : List Word) :
    Action (List Text) := do
  pure (← words.mapM (expandWord run)).flatten

/-- The text of an expansion that is not divided. -/
def Expansion.text : Expansion → Text
  | whole text => text
  | divided text => text
  | several texts => Text.joined [' '] texts

/-- The text that a word becomes where it is not divided. -/
def expandText (run : Text → Action Bytes) (word : Word) : Action Text := do
  let expansions ← word.mapM (expandPiece run)
  pure (expansions.flatMap Expansion.text)

end ContractTemplates.Host.Shell
