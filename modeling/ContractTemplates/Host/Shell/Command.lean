import ContractTemplates.Text.Basic

namespace ContractTemplates.Host.Shell

/-!
# Commands of the shell

A script is a command. Simple commands are lists of words, and they are put
together by pipes, by sequence, by conditions and by loops. A word is a list of
pieces: literal text, parameters, the output of further scripts and the values
of sums. Each piece says whether it stands between double quotes, because only a
piece outside of them is divided at blanks.
-/

/-- A piece of a word. -/
inductive Piece where
  | literal (text : Text)
  | parameter (name : Text) (quoted : Bool)
  | output (script : Text) (quoted : Bool)
  | sum (expression : Text) (quoted : Bool)
  deriving DecidableEq, Repr

/-- A word before its parameters are replaced. -/
abbrev Word := List Piece

/-- The literal text that a word begins and ends with, if it is all that it has. -/
def Word.literal? : Word → Option Text
  | [.literal text] => some text
  | _ => none

/-- What becomes of a stream. -/
inductive Direction where
  | read
  | write
  | append
  /-- The stream goes where another one goes. -/
  | along
  deriving DecidableEq, Repr

/-- A stream with where it goes instead. -/
structure Redirection where
  descriptor : Nat
  direction : Direction
  target : Word
  deriving DecidableEq, Repr

/-- A simple command: variables that it sets, words, and redirections. -/
structure SimpleCommand where
  line : Nat
  settings : List (Text × Word)
  words : List Word
  redirections : List Redirection
  deriving DecidableEq, Repr

/-- A command. -/
inductive Command where
  | nothing
  | simple (command : SimpleCommand)
  | pipe (first second : Command)
  | negation (command : Command)
  | sequence (first second : Command)
  | conjunction (first second : Command)
  | disjunction (first second : Command)
  | choice (condition consequence alternative : Command)
  | loop (untilTrue : Bool) (condition body : Command)
  /-- Without words, the loop goes over the arguments of the script. -/
  | each (name : Text) (words : Option (List Word)) (body : Command)
  /-- The first branch counts that has the form of the subject. -/
  | select (subject : Word) (branches : Command)
  | branch (forms : List Word) (body otherwise : Command)
  | group (apart : Bool) (body : Command) (redirections : List Redirection)
  | background (command : Command)
  deriving DecidableEq, Repr

/-- Why a script is not a command. -/
inductive ScriptFault where
  | openQuote
  | badParameter
  | unexpected (word : Text)
  | endsEarly
  deriving DecidableEq, Repr

/-- A fault of a script in words. -/
def ScriptFault.message : ScriptFault → Text
  | openQuote => "Syntax error: Unterminated quoted string".toList
  | badParameter => "Bad substitution".toList
  | unexpected word =>
      "Syntax error: ".toList ++ '"' :: word ++ "\" unexpected".toList
  | endsEarly => "Syntax error: end of file unexpected".toList

end ContractTemplates.Host.Shell
