import ContractTemplates.Host.Program.Basic
import ContractTemplates.Text.Digit

namespace ContractTemplates.Host

/-!
# Programs that print their words

`echo` prints its words with spaces between them. `printf` prints them as a
format says, which is used again and again until no words are left. Codes after
a backslash stand for bytes that are hard to write.
-/

/-- The byte that a single letter after a backslash stands for. -/
def escapeByte? : Char → Option UInt8
  | 'a' => some 7
  | 'b' => some 8
  | 'f' => some 12
  | 'n' => some 10
  | 'r' => some 13
  | 't' => some 9
  | 'v' => some 11
  | '\\' => some 92
  | _ => none

/-- Whether a character is an octal digit. -/
def isOctal (c : Char) : Bool :=
  '0' ≤ c && c ≤ '7'

/-- The byte of at most `limit` octal digits at the start of a text. -/
def octalByte (limit : Nat) (text : Text) : UInt8 × Text :=
  let digits := (text.take limit).takeWhile isOctal
  (UInt8.ofNat (Nat.ofDigitChars 8 digits 0), text.drop digits.length)

/-- What a code after a backslash stands for. -/
inductive Escape where
  | byte (value : UInt8)
  /-- Nothing more is printed. -/
  | stop
  /-- The backslash stands for itself. -/
  | none

/-- The code after a backslash in words that are printed as they are. -/
def wordEscape : Text → Escape × Text
  | '0' :: rest =>
      let (value, later) := octalByte 3 rest
      (.byte value, later)
  | 'c' :: rest => (.stop, rest)
  | c :: rest =>
      match escapeByte? c with
      | some value => (.byte value, rest)
      | none => (.none, c :: rest)
  | [] => (.none, [])

/-- The code after a backslash in a format. -/
def formatEscape : Text → Escape × Text
  | 'c' :: rest => (.stop, rest)
  | c :: rest =>
      if isOctal c then
        let (value, later) := octalByte 3 (c :: rest)
        (.byte value, later)
      else if c = '"' then
        (.byte 34, rest)
      else
        match escapeByte? c with
        | some value => (.byte value, rest)
        | none => (.none, c :: rest)
  | [] => (.none, [])

/-- The bytes of a text with its codes replaced, and whether printing goes on. -/
def unescaped (escape : Text → Escape × Text) : Nat → Text → Bytes × Bool
  | 0, _ => ([], true)
  | _, [] => ([], true)
  | fuel + 1, c :: rest =>
      if c ≠ '\\' then
        let (bytes, more) := unescaped escape fuel rest
        (Text.utf8Character c ++ bytes, more)
      else
        match escape rest with
        | (.stop, _) => ([], false)
        | (.byte value, later) =>
            let (bytes, more) := unescaped escape fuel later
            (value :: bytes, more)
        | (.none, later) =>
            let (bytes, more) := unescaped escape fuel later
            (92 :: bytes, more)

/-- The bytes of a text with the codes of printed words replaced. -/
def unescapedWord (text : Text) : Bytes × Bool :=
  unescaped wordEscape (text.length + 1) text

/-- What is printed for some words with spaces between them. -/
def echoed (escapes newline : Bool) (words : List Text) : Bytes :=
  let text := Text.joined [' '] words
  let (bytes, more) := if escapes then unescapedWord text else (text.utf8, true)
  if newline ∧ more then bytes ++ [10] else bytes

/-- Whether a word holds options for printing words. -/
def isEchoOption (word : Text) : Bool :=
  isOption word && (word.drop 1).all fun c => "neE".toList.contains c

/-- Prints words; codes are replaced only where that is asked for. -/
def echo : Program := fun call =>
  let given := call.arguments.takeWhile isEchoOption
  let letters := given.flatMap (List.drop 1)
  let escapes := (letters.filter (· ≠ 'n')).getLast? = some 'e'
  (Report.ended 0 call).writing
    (echoed escapes (¬ letters.contains 'n')
      (call.arguments.drop given.length))

/-- Prints words and replaces their codes. -/
def echoWithEscapes : Program := fun call =>
  match call.arguments with
  | word :: rest =>
      if word = "-n".toList then
        (Report.ended 0 call).writing (echoed true false rest)
      else
        (Report.ended 0 call).writing (echoed true true (word :: rest))
  | [] => (Report.ended 0 call).writing [10]

/-- How a word is fitted into a field. -/
structure Field where
  leftward : Bool
  zeros : Bool
  width : Nat
  precision : Option Nat
  letter : Char
  deriving DecidableEq, Repr

/-- The bytes filled up to the width of a field. -/
def Field.fill (field : Field) (filler : UInt8) (bytes : Bytes) : Bytes :=
  let missing := List.replicate (field.width - bytes.length) filler
  if field.leftward then
    bytes ++ List.replicate missing.length 32
  else
    missing ++ bytes

/-- The field that a format begins with after its percent sign. -/
def fieldOf? (text : Text) : Option (Field × Text) :=
  let flags := text.takeWhile fun c => "-+ 0#".toList.contains c
  let (width, afterWidth) := Text.spanDigits (text.drop flags.length)
  let (precision, later) :=
    match afterWidth with
    | '.' :: rest =>
        let (digits, later) := Text.spanDigits rest
        (some (Nat.ofDigitChars 10 digits 0), later)
    | _ => (none, afterWidth)
  match later with
  | letter :: rest =>
      some ({
        leftward := flags.contains '-'
        zeros := flags.contains '0'
        width := Nat.ofDigitChars 10 width 0
        precision
        letter }, rest)
  | [] => none

/-- The integer that a word names; zero if it names none. -/
def integerOf (word : Text) : Int :=
  match word with
  | '-' :: digits => -((Text.toNat? digits).getD 0 : Nat)
  | digits => ((Text.toNat? digits).getD 0 : Nat)

/-- What a field shows of a word, and whether printing goes on. -/
def Field.shown (field : Field) (word : Text) : Bytes × Bool :=
  let number := fun (text : Text) =>
    (field.fill (if field.zeros ∧ ¬ field.leftward then 48 else 32) text.utf8,
      true)
  match field.letter with
  | 'd' | 'i' | 'u' => number (Text.ofInt (integerOf word))
  | 'o' => number (Nat.toDigits 8 (integerOf word).toNat)
  | 'x' => number (Nat.toDigits 16 (integerOf word).toNat)
  | 'X' =>
      number ((Nat.toDigits 16 (integerOf word).toNat).map Char.toUpper)
  | 'c' => (field.fill 32 (Text.utf8 (word.take 1)), true)
  | 'b' =>
      let (bytes, more) := unescapedWord word
      (field.fill 32 bytes, more)
  | _ =>
      let bytes := word.utf8
      (field.fill 32 ((field.precision.map bytes.take).getD bytes), true)

/-- The bytes of one use of a format, the words left, and whether printing goes on. -/
def formatted : Nat → Text → List Text → Bytes × List Text × Bool
  | 0, _, words => ([], words, true)
  | _, [], words => ([], words, true)
  | fuel + 1, '%' :: '%' :: rest, words =>
      let (bytes, left, more) := formatted fuel rest words
      (37 :: bytes, left, more)
  | fuel + 1, '%' :: rest, words =>
      match fieldOf? rest with
      | none => ([37], words, true)
      | some (field, later) =>
          let (shown, goesOn) := field.shown (words.headD [])
          if goesOn then
            let (bytes, left, more) := formatted fuel later (words.drop 1)
            (shown ++ bytes, left, more)
          else
            (shown, [], false)
  | fuel + 1, '\\' :: rest, words =>
      match formatEscape rest with
      | (.stop, _) => ([], [], false)
      | (.byte value, later) =>
          let (bytes, left, more) := formatted fuel later words
          (value :: bytes, left, more)
      | (.none, later) =>
          let (bytes, left, more) := formatted fuel later words
          (92 :: bytes, left, more)
  | fuel + 1, c :: rest, words =>
      let (bytes, left, more) := formatted fuel rest words
      (Text.utf8Character c ++ bytes, left, more)

/-- The bytes of a format that is used until no words are left. -/
def formattedAgain (format : Text) : Nat → List Text → Bytes
  | 0, _ => []
  | fuel + 1, words =>
      let (bytes, left, more) := formatted (format.length + 1) format words
      if left = [] ∨ ¬ more ∨ left.length = words.length then
        bytes
      else
        bytes ++ formattedAgain format fuel left

/-- Prints words as a format says. -/
def printFormatted : Program := fun call =>
  let words :=
    match call.arguments with
    | word :: rest => if word = "--".toList then rest else word :: rest
    | [] => []
  match words with
  | [] =>
      (Report.ended 0 call).complaining 2
        "printf: usage: printf format [arg ...]".toList
  | format :: rest =>
      (Report.ended 0 call).writing
        (formattedAgain format (rest.length + 1) rest)

end ContractTemplates.Host
