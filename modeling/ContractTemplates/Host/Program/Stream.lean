import ContractTemplates.Host.Program.Pattern
import ContractTemplates.Host.Program.Printing

namespace ContractTemplates.Host

/-!
# Programs for streams

These programs read files or their input and print a part of what they read, or
numbers about it, or the lines with a pattern.
-/

/-- What a program reads: its files one after the other, or else its input. -/
def contents (words : List Text) (call : Call) :
    List (Text × Except FileFault Bytes) :=
  if words = [] then
    [([], .ok call.input)]
  else
    words.map fun word =>
      (word, if word = ['-'] then .ok call.input else call.read word)

/-- Reports on each content, and complains about files that cannot be read. -/
def overContents
    (status : Nat)
    (complaint : Text → FileFault → Text)
    (step : Text → Bytes → Report → Report)
    (call : Call)
    (words : List Text) :
    Report :=
  (contents words call).foldl
    (fun report (word, content) =>
      match content with
      | .ok bytes => step word bytes report
      | .error fault => report.complaining status (complaint word fault))
    (Report.ended 0 call)

/-- A complaint with the name of a program, a file and the reason. -/
def about (program : String) (word : Text) (fault : FileFault) : Text :=
  program.toList ++ ": ".toList ++ word ++ ": ".toList ++ fault.reason

/-- A complaint about a file that cannot be opened. -/
def notOpened (program : String) (word : Text) (fault : FileFault) : Text :=
  program.toList ++ ": cannot open ".toList ++ quoted word ++
    " for reading: ".toList ++ fault.reason

/-- Prints files. -/
def concatenate : Program := fun call =>
  overContents 1 (about "cat") (fun _ bytes report => report.writing bytes) call
    (options call.arguments).2

/-- A part of a stream, counted in bytes or in lines. -/
structure Portion where
  ofBytes : Bool
  /-- Whether the count is that of what is left out. -/
  fromCount : Bool
  count : Nat
  deriving DecidableEq, Repr

/-- The count of a word, with a plus sign for what is left out. -/
def portionOf (ofBytes : Bool) (word : Text) : Portion :=
  match word with
  | '+' :: digits => ⟨ofBytes, true, (Text.toNat? digits).getD 0⟩
  | '-' :: digits => ⟨ofBytes, false, (Text.toNat? digits).getD 0⟩
  | digits => ⟨ofBytes, false, (Text.toNat? digits).getD 0⟩

/-- The portion that is asked for, and the words that are files. -/
def portionArguments : List Text → Portion × List Text
  | [] => (⟨false, false, 10⟩, [])
  | ['-', 'c'] :: count :: rest =>
      (portionOf true count, (portionArguments rest).2)
  | ['-', 'n'] :: count :: rest =>
      (portionOf false count, (portionArguments rest).2)
  | ('-' :: 'c' :: digits) :: rest =>
      (portionOf true digits, (portionArguments rest).2)
  | ('-' :: 'n' :: digits) :: rest =>
      (portionOf false digits, (portionArguments rest).2)
  | ('-' :: digit :: digits) :: rest =>
      if digit.isDigit then
        (portionOf false (digit :: digits), (portionArguments rest).2)
      else
        portionArguments rest
  | word :: rest =>
      let (portion, words) := portionArguments rest
      (portion, word :: words)

/-- The lines of a stream, each with its line feed if it has one. -/
def wholeLines (bytes : Bytes) : List Bytes :=
  let pieces := piecesOf bytes
  ((pieces.dropLast.map fun piece => piece ++ [10]) ++
    [pieces.getLast?.getD []]).filter (· ≠ [])

/-- The beginning of a stream. -/
def beginning (portion : Portion) (bytes : Bytes) : Bytes :=
  if portion.ofBytes then
    bytes.take portion.count
  else
    ((wholeLines bytes).take portion.count).flatten

/-- The end of a list, or what follows a number of its items. -/
def endOf (portion : Portion) (items : List α) : List α :=
  if portion.fromCount then
    items.drop (portion.count - 1)
  else
    items.drop (items.length - portion.count)

/-- The end of a stream. -/
def ending (portion : Portion) (bytes : Bytes) : Bytes :=
  if portion.ofBytes then
    endOf portion bytes
  else
    (endOf portion (wholeLines bytes)).flatten

/-- The word for a file that never ends and holds zeros. -/
def endlessZeros : Text :=
  "/dev/zero".toList

/-- Prints the beginning of files. -/
def head : Program := fun call =>
  let (portion, words) := portionArguments call.arguments
  if words = [endlessZeros] ∧ portion.ofBytes then
    (Report.ended 0 call).writing (List.replicate portion.count 0)
  else
    overContents 1 (notOpened "head")
      (fun _ bytes report => report.writing (beginning portion bytes)) call words

/-- Prints the end of files. -/
def tail : Program := fun call =>
  let (portion, words) := portionArguments call.arguments
  overContents 1 (notOpened "tail")
    (fun _ bytes report => report.writing (ending portion bytes)) call words

/-- The number of words in a stream. -/
def wordCount (bytes : Bytes) : Nat :=
  (bytes.foldl
    (fun (count, inside) byte =>
      if byte = 32 ∨ (9 ≤ byte ∧ byte ≤ 13) then
        (count, false)
      else
        (if inside then count else count + 1, true))
    (0, false)).1

/-- The numbers about a stream that are asked for. -/
def counts (letters : List Char) (bytes : Bytes) : List Nat :=
  let all := ¬ "lwcm".toList.any letters.contains
  (if all || letters.contains 'l' then [bytes.count 10] else []) ++
    (if all || letters.contains 'w' then [wordCount bytes] else []) ++
    (if letters.contains 'm' then [(Text.ofUtf8Lossy bytes).length] else []) ++
    (if all || letters.contains 'c' then [bytes.length] else [])

/-- Numbers in columns; a single number has no column. -/
def columns (width : Nat) (numbers : List Nat) : Text :=
  match numbers with
  | [number] => Nat.toDigits 10 number
  | _ =>
      Text.joined [' '] (numbers.map fun number =>
        let digits := Nat.toDigits 10 number
        List.replicate (width - digits.length) ' ' ++ digits)

/-- Prints how many lines, words and bytes files have. -/
def countStream : Program := fun call =>
  let (letters, words) := options call.arguments
  overContents 1 (about "wc")
    (fun word bytes report =>
      let width := if word = [] then 7 else (Nat.toDigits 10 bytes.length).length
      let name := if word = [] then [] else ' ' :: word
      report.printing (line (columns width (counts letters bytes) ++ name)))
    call words

/-- The bytes of a set of characters, with its codes and ranges. -/
def setBytes : Bytes → Bytes
  | low :: 45 :: high :: rest =>
      (List.range (high.toNat + 1 - low.toNat)).map
          (fun offset => UInt8.ofNat (low.toNat + offset)) ++
        setBytes rest
  | byte :: rest => byte :: setBytes rest
  | [] => []

/-- The bytes of a word for a set of characters. -/
def setOf (word : Text) : Bytes :=
  setBytes (unescaped formatEscape (word.length + 1) word).1

/-- The byte that takes the place of one; the last of a set stands for all further ones. -/
def exchanged (fromSet toSet : Bytes) (byte : UInt8) : UInt8 :=
  match (fromSet.zipIdx.filter fun entry => entry.1 = byte).getLast? with
  | none => byte
  | some (_, position) =>
      ((toSet[position]?).or toSet.getLast?).getD byte

/-- Replaces or deletes characters. -/
def exchange : Program := fun call =>
  let (letters, words) := options call.arguments
  match words with
  | [only] =>
      let set := setOf only
      if letters.contains 'd' then
        (Report.ended 0 call).writing
          (call.input.filter fun byte => ¬ set.contains byte)
      else
        (Report.ended 0 call).complaining 1
          (missingWord "tr".toList
            ("missing operand after ".toList ++ curved only ++
              "\nTwo strings must be given when translating.".toList))
  | fromSet :: toSet :: _ =>
      (Report.ended 0 call).writing
        (call.input.map (exchanged (setOf fromSet) (setOf toSet)))
  | [] =>
      (Report.ended 0 call).complaining 1
        (missingWord "tr".toList "missing operand".toList)

/-- The options of a search, its pattern and its files. -/
structure Search where
  letters : List Char
  pattern : List Alternative
  files : List Text

/-- The search that words describe, if they name a pattern. -/
def searchOf? (words : List Text) : Option Search :=
  let (letters, others) := options words
  match others with
  | [] => none
  | pattern :: files =>
      let lowered :=
        if letters.contains 'i' then pattern.map Char.toLower else pattern
      some {
        letters
        pattern :=
          if letters.contains 'F' then
            fixedPattern lowered
          else
            patternOf (letters.contains 'E') lowered
        files }

/-- Whether a line is one that is searched for. -/
def Search.selects (search : Search) (content : Bytes) : Bool :=
  let text := Text.ofUtf8Lossy content
  let lowered :=
    if search.letters.contains 'i' then text.map Char.toLower else text
  let pattern :=
    if search.letters.contains 'x' then
      search.pattern.map fun alternative =>
        { alternative with fromStart := true, toEnd := true }
    else
      search.pattern
  (pattern.any fun alternative => alternative.accepts lowered) !=
    search.letters.contains 'v'

/-- What is printed about one file. -/
def Search.shown (search : Search) (word : Text) (content : Bytes) : Bytes :=
  let selected := (linesOf content).zipIdx.filter fun entry =>
    search.selects entry.1
  let lead := if search.files.length > 1 then word ++ [':'] else []
  if search.letters.contains 'q' then
    []
  else if search.letters.contains 'l' then
    if selected = [] then [] else (line word).utf8
  else if search.letters.contains 'c' then
    (line (lead ++ Nat.toDigits 10 selected.length)).utf8
  else
    selected.flatMap fun (found, position) =>
      let number :=
        if search.letters.contains 'n' then
          Nat.toDigits 10 (position + 1) ++ [':']
        else
          []
      Text.utf8 (lead ++ number) ++ found ++ [10]

/-- Prints the lines with a pattern; the status says whether there is one. -/
def grep : Program := fun call =>
  match searchOf? call.arguments with
  | none =>
      (Report.ended 0 call).complaining 2
        "Usage: grep [OPTION]... PATTERNS [FILE]...\nTry 'grep --help' for more information.".toList
  | some search =>
      let found := (contents search.files call).any fun (_, content) =>
        match content with
        | .ok bytes => (linesOf bytes).any search.selects
        | .error _ => false
      let report :=
        overContents 2 (about "grep")
          (fun word bytes report => report.writing (search.shown word bytes))
          call search.files
      if search.letters.contains 'q' ∧ found then
        { report with status := 0 }
      else if report.status = 0 ∧ ¬ found then
        { report with status := 1 }
      else
        report

/-- Sorts lines; nothing is printed if a file cannot be read. -/
def sortLines : Program := fun call =>
  let (letters, words) := options call.arguments
  let read := (contents words call).mapM fun (word, content) =>
    content.mapError fun fault => (word, fault)
  match read with
  | .error (word, fault) =>
      (Report.ended 0 call).complaining 2
        (about "sort: cannot read" word fault)
  | .ok streams =>
      let sorted := (streams.flatMap linesOf).mergeSort fun a b =>
        Text.le (Text.ofUtf8Lossy a) (Text.ofUtf8Lossy b)
      let chosen := if letters.contains 'u' then sorted.eraseDups else sorted
      let ordered := if letters.contains 'r' then chosen.reverse else chosen
      (Report.ended 0 call).writing (joinLines ordered)

/-- Writes the input to files and to the output. -/
def tee : Program := fun call =>
  let (letters, words) := options call.arguments
  let written := forEach
    (fun (call : Call) (word : Text) =>
      let location := call.location word
      let held :=
        if letters.contains 'a' then
          ((call.files.read location).toOption).getD []
        else
          []
      match call.files.write location (held ++ call.input) with
      | .ok files => (Report.ended 0 call).withFiles files
      | .error fault =>
          (Report.ended 0 call).complaining 1 (about "tee" word fault))
    call words
  written.writing call.input

/-- Programs for streams by their names. -/
def streamPrograms : List (String × Program) := [
  ("cat", concatenate),
  ("head", head),
  ("tail", tail),
  ("wc", countStream),
  ("tr", exchange),
  ("grep", grep),
  ("sort", sortLines),
  ("tee", tee)]

end ContractTemplates.Host
