import ContractTemplates.Number.Numeral
import ContractTemplates.Path

namespace ContractTemplates

/-!
# Compilers

How the compiler of documents is called: the words of its command, how long it
may take, the directory it works in and the directories with fonts. Each job has
a name, from which the paths of its input and its output are made. The command
is a list of words, so nothing in a path can be mistaken for anything else.
-/

/-- How the compiler is called. -/
structure Compiler where
  command : List Text
  /-- The longest time that a job may take, in seconds. -/
  timeout : Number
  workdir : Path
  fontPaths : List Path
  deriving DecidableEq, Repr

namespace Compiler

/-- A file of a job in the working directory. -/
def jobPath (compiler : Compiler) (job ending : Text) : Path :=
  compiler.workdir.joined (Path.ofText (job ++ ending))

/-- The path of the input of a job. -/
def inputPath (compiler : Compiler) (job : Text) : Path :=
  compiler.jobPath job ".typ".toList

/-- The path of the output of a job. -/
def outputPath (compiler : Compiler) (job : Text) : Path :=
  compiler.jobPath job ".pdf".toList

/-- The words that name the directories with fonts. -/
def fontWords (compiler : Compiler) : List Text :=
  compiler.fontPaths.flatMap fun path => ["--font-path".toList, path.text]

/-- The words of the call for an input and an output. -/
def call (compiler : Compiler) (input output : Path) : List Text :=
  compiler.command ++ ["compile".toList] ++ compiler.fontWords ++
    [input.text, output.text]

/-- The words of the call for a job. -/
def jobCall (compiler : Compiler) (job : Text) : List Text :=
  compiler.call (compiler.inputPath job) (compiler.outputPath job)

end Compiler

end ContractTemplates
