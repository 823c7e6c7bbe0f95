import ContractTemplates.Files
import ContractTemplates.Text.Utf8

namespace ContractTemplates.Host

/-!
# Programs

A program is a function. It takes the words after its name, the bytes on its
input, the directory that it works in and the files, and it reports a status,
what it wrote to its two streams, the files after it and the time that it took.

Times are counted in microseconds.
-/

/-- The streams that a program writes to. -/
inductive Channel where
  | output
  | errors
  deriving DecidableEq, Repr

/-- Bytes written to one of the streams. -/
structure Writing where
  channel : Channel
  bytes : Bytes
  deriving DecidableEq, Repr

/-- The call of a program. -/
structure Call where
  arguments : List Text
  input : Bytes
  directory : Location
  files : Files

/-- What has come of a call. -/
structure Report where
  status : Nat
  writings : List Writing
  files : Files
  time : Nat

/-- What a program does when it is called. -/
abbrev Program := Call → Report

/-- The bytes that were written to one of the streams. -/
def streamOf (channel : Channel) (writings : List Writing) : Bytes :=
  (writings.filter fun writing => writing.channel = channel).flatMap
    Writing.bytes

/-- A line of text. -/
def line (text : Text) : Text :=
  text ++ ['\n']

namespace Report

/-- The report of a call that does nothing and ends with a status. -/
def ended (status : Nat) (call : Call) : Report where
  status
  writings := []
  files := call.files
  time := 0

/-- The report with more bytes on the output. -/
def writing (bytes : Bytes) (report : Report) : Report :=
  { report with writings := report.writings ++ [⟨.output, bytes⟩] }

/-- The report with more text on the output. -/
def printing (text : Text) (report : Report) : Report :=
  report.writing text.utf8

/-- The report with a line on the error stream, and a status for it. -/
def complaining (status : Nat) (text : Text) (report : Report) : Report :=
  { report with
    status
    writings := report.writings ++ [⟨.errors, (line text).utf8⟩] }

/-- The report with changed files. -/
def withFiles (files : Files) (report : Report) : Report :=
  { report with files }

/-- One report after another; the later status counts unless it is zero. -/
def andThen (first second : Report) : Report where
  status := if second.status = 0 then first.status else second.status
  writings := first.writings ++ second.writings
  files := second.files
  time := first.time + second.time

end Report

namespace Call

/-- The location that a word names. -/
def location (call : Call) (word : Text) : Location :=
  (Path.ofText word).resolve call.directory

/-- The location of a file whose content is always empty. -/
def emptyFile : Location :=
  ["dev".toList, "null".toList]

/-- The content of the file that a word names. -/
def read (call : Call) (word : Text) : Except FileFault Bytes :=
  if word = [] then
    .error .missing
  else if call.location word = emptyFile then
    .ok []
  else
    call.files.read (call.location word)

/-- The call on changed files. -/
def onFiles (call : Call) (files : Files) : Call :=
  { call with files }

end Call

/-- Runs a step for each word, each on the files that the one before has left. -/
def forEach (step : Call → Text → Report) (call : Call) :
    List Text → Report
  | [] => Report.ended 0 call
  | word :: rest =>
      let first := step call word
      first.andThen (forEach step (call.onFiles first.files) rest)

/-- A word between quotes. -/
def quoted (word : Text) : Text :=
  '\'' :: word ++ ['\'']

/-- A word between curved quotes. -/
def curved (word : Text) : Text :=
  '‘' :: word ++ ['’']

/-- The complaint about a call without a needed word, and where to find help. -/
def missingWord (program complaint : Text) : Text :=
  program ++ ": ".toList ++ complaint ++ "\nTry ".toList ++
    quoted (program ++ " --help".toList) ++ " for more information.".toList

/-- Whether a word holds options. -/
def isOption : Text → Bool
  | '-' :: _ :: _ => true
  | _ => false

/-- The letters of all options and the words that are none. -/
def options : List Text → List Char × List Text
  | [] => ([], [])
  | word :: rest =>
      if word = "--".toList then
        ([], rest)
      else
        let (letters, words) := options rest
        if isOption word then
          (word.drop 1 ++ letters, words)
        else
          (letters, word :: words)

/-- The pieces of a stream between its line feeds; never empty. -/
def piecesOf (bytes : Bytes) : List Bytes :=
  let (first, later) := bytes.foldr
    (fun byte (held, pieces) =>
      if byte = 10 then ([], held :: pieces) else (byte :: held, pieces))
    (([] : Bytes), ([] : List Bytes))
  first :: later

/-- The lines of a stream without their line feeds. -/
def linesOf (bytes : Bytes) : List Bytes :=
  let pieces := piecesOf bytes
  if pieces.getLast? = some [] then pieces.dropLast else pieces

/-- Lines with a line feed after each. -/
def joinLines (lines : List Bytes) : Bytes :=
  lines.flatMap fun content => content ++ [10]

end ContractTemplates.Host
