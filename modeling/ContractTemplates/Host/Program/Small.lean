import ContractTemplates.Host.Program.Printing
import ContractTemplates.Host.Program.Stream
import ContractTemplates.Host.Program.Tree

namespace ContractTemplates.Host

/-!
# Small programs

These programs answer a question by their status, name a place, or let time
pass.
-/

/-- The text of a location. -/
def placeText (location : Location) : Text :=
  '/' :: Text.joined ['/'] location

/-- Names the directory that it works in. -/
def printPlace : Program := fun call =>
  (Report.ended 0 call).printing (line (placeText call.directory))

/-- The microseconds of a second. -/
def second : Nat :=
  1000000

/-- A time that is longer than anyone waits. -/
def forever : Nat :=
  second * second

/-- The microseconds of a decimal number of seconds. -/
def secondsOf? (text : Text) : Option Nat := do
  let (whole, fraction) := Text.cut '.' text
  let places := fraction.getD []
  guard (whole ++ places ≠ [] ∧ (whole ++ places).all Char.isDigit)
  let padded := (places ++ List.replicate 6 '0').take 6
  some
    (Nat.ofDigitChars 10 whole 0 * second + Nat.ofDigitChars 10 padded 0)

/-- The factors of the letters for units of time. -/
def unitOf? : Char → Option Nat
  | 's' => some 1
  | 'm' => some 60
  | 'h' => some 3600
  | 'd' => some 86400
  | _ => none

/-- The microseconds of a word for a time. -/
def durationOf? (word : Text) : Option Nat :=
  if word = "infinity".toList ∨ word = "inf".toList then
    some forever
  else
    match word.getLast?.bind unitOf? with
    | some factor => (secondsOf? word.dropLast).map (· * factor)
    | none => secondsOf? word

/-- The complaint about a word for a time that is none. -/
def notDuration (word : Text) : Text :=
  "sleep: invalid time interval ".toList ++ curved word

/-- Lets time pass. -/
def sleep : Program := fun call =>
  let report := Report.ended 0 call
  if call.arguments = [] then
    report.complaining 1
      (missingWord "sleep".toList "missing operand".toList)
  else
    match call.arguments.filter fun word => (durationOf? word).isNone with
    | [] =>
        let durations := call.arguments.filterMap durationOf?
        { report with time := durations.foldl Nat.add 0 }
    | words =>
        report.complaining 1
          (words.flatMap (fun word => line (notDuration word)) ++
            "Try 'sleep --help' for more information.".toList)

/-- The last name of a word, without an ending. -/
def printLastName : Program := fun call =>
  match call.arguments with
  | [] =>
      (Report.ended 0 call).complaining 1
        (missingWord "basename".toList "missing operand".toList)
  | word :: rest =>
      let name := lastName word
      let shortened :=
        match rest with
        | suffix :: _ =>
            if suffix.isSuffixOf name ∧ name ≠ suffix then
              name.take (name.length - suffix.length)
            else
              name
        | [] => name
      (Report.ended 0 call).printing (line shortened)

/-- The words without their last names. -/
def printDirectories : Program := fun call =>
  (Report.ended 0 call).printing
    (call.arguments.flatMap fun word => line (withoutLastName word))

/-- Counts from one number to another. -/
def sequence : Program := fun call =>
  let numbers := call.arguments.map integerOf
  let (first, step, last) :=
    match numbers with
    | [last] => (1, 1, last)
    | [first, last] => (first, 1, last)
    | first :: step :: last :: _ => (first, step, last)
    | [] => (1, 1, 0)
  let length := if step ≤ 0 then 0 else (last - first) / step + 1
  (Report.ended 0 call).printing
    ((List.range length.toNat).flatMap fun (index : Nat) =>
      line (Text.ofInt (first + step * (index : Nat))))

/-- What a test with one letter says about a file or a text. -/
def testOne (call : Call) (letter : Char) (word : Text) : Option Bool :=
  let location := call.location word
  let found : Option FileEntry :=
    match call.files.parentFault? location with
    | none => if word = [] then none else call.files.find? location
    | some _ => none
  match letter with
  | 'n' => some (word ≠ [])
  | 'z' => some (word = [])
  | 'e' | 'r' | 'w' => some found.isSome
  | 'd' | 'x' => some (found = some .directory)
  | 'f' =>
      match found with
      | some (.file _) => some true
      | _ => some false
  | 's' =>
      match found with
      | some (.file content) => some (content ≠ [])
      | some .directory => some true
      | none => some false
  | _ => none

/-- What a test with a sign says about two words. -/
def testTwo (left sign right : Text) : Option Bool :=
  match String.ofList sign with
  | "=" | "==" => some (left = right)
  | "!=" => some (left ≠ right)
  | "-eq" => some (integerOf left = integerOf right)
  | "-ne" => some (integerOf left ≠ integerOf right)
  | "-lt" => some (integerOf left < integerOf right)
  | "-le" => some (integerOf left ≤ integerOf right)
  | "-gt" => some (integerOf left > integerOf right)
  | "-ge" => some (integerOf left ≥ integerOf right)
  | _ => none

/-- What a test says, if it is one. -/
def testOf? (call : Call) : List Text → Option Bool
  | [] => some false
  | [word] => some (word ≠ [])
  | ['!'] :: rest => (testOf? call rest).map not
  | [['-', letter], word] => testOne call letter word
  | [left, sign, right] => testTwo left sign right
  | _ => none

/-- Answers a test by its status. -/
def test : Program := fun call =>
  match testOf? call call.arguments with
  | some true => Report.ended 0 call
  | some false => Report.ended 1 call
  | none => Report.ended 2 call

/-- Answers a test that is written between brackets. -/
def bracketTest : Program := fun call =>
  if call.arguments.getLast? = some [']'] then
    test { call with arguments := call.arguments.dropLast }
  else
    (Report.ended 0 call).complaining 2 "[: missing ‘]’".toList

/-- All programs by their names. -/
def programs : List (String × Program) :=
  treePrograms ++ streamPrograms ++ [
    ("true", Report.ended 0),
    ("false", Report.ended 1),
    ("echo", echo),
    ("printf", printFormatted),
    ("pwd", printPlace),
    ("sleep", sleep),
    ("basename", printLastName),
    ("dirname", printDirectories),
    ("seq", sequence),
    ("test", test),
    ("[", bracketTest)]

/-- The program of a name. -/
def program? (name : Text) : Option Program :=
  (programs.find? fun entry => entry.1.toList = name).map Prod.snd

end ContractTemplates.Host
