import ContractTemplates.Host.Program.Basic

namespace ContractTemplates.Host

/-!
# Programs for files and directories

These programs copy, move, make and remove files and directories. Each works on
its words one after the other, goes on after one that fails, and complains about
it on the error stream.
-/

/-- A complaint that names a program, what it cannot do, and why. -/
def cannot (program deed subject : Text) (fault : FileFault) : Text :=
  program ++ ": cannot ".toList ++ deed ++ ' ' :: subject ++ ": ".toList ++
    fault.reason

/-- The last name of a word. -/
def lastName (word : Text) : Text :=
  ((Path.ofText word).names.getLast?).getD ['/']

/-- The word without its last name. -/
def withoutLastName (word : Text) : Text :=
  let path := Path.ofText word
  ({ path with names := path.names.dropLast } : Path).text

/-- Where something goes that is put to a word: into it, if it is a directory. -/
def destination (call : Call) (source target : Text) : Text :=
  if call.files.isDirectory (call.location target) then
    target ++ '/' :: lastName source
  else
    target

/-- Writes a file to where a word says. -/
def writeTo (call : Call) (word : Text) (content : Bytes) :
    Except FileFault Files :=
  if call.location word = Call.emptyFile then
    .ok call.files
  else
    call.files.write (call.location word) content

/-- Copies a file. -/
def copyOne (target : Text) (call : Call) (source : Text) : Report :=
  let report := Report.ended 0 call
  let place := destination call source target
  match call.read source with
  | .error .isDirectory =>
      report.complaining 1
        ("cp: -r not specified; omitting directory ".toList ++ quoted source)
  | .error fault =>
      report.complaining 1
        (cannot "cp".toList "stat".toList (quoted source) fault)
  | .ok content =>
      if call.location place = call.location source then
        report.complaining 1
          ("cp: ".toList ++ quoted source ++ " and ".toList ++ quoted place ++
            " are the same file".toList)
      else
        match writeTo call place content with
        | .ok files => report.withFiles files
        | .error fault =>
            report.complaining 1
              (cannot "cp".toList "create regular file".toList (quoted place)
                fault)

/-- The files with everything at one location moved to another. -/
def movedFiles (source target : Location) (files : Files) : Files :=
  (files.filter fun entry => ¬ target.isPrefixOf entry.1).map
    fun (location, entry) =>
      match source.isPrefixOf? location with
      | some rest => (target ++ rest, entry)
      | none => (location, entry)

/-- Moves a file or a directory. -/
def moveOne (target : Text) (call : Call) (source : Text) : Report :=
  let report := Report.ended 0 call
  let place := destination call source target
  let found := call.location source
  let reached := call.location place
  match call.files.parentFault? found, call.files.find? found with
  | none, some _ =>
      match call.files.parentFault? reached with
      | some fault =>
          report.complaining 1
            (cannot "mv".toList "move".toList
              (quoted source ++ " to ".toList ++ quoted place) fault)
      | none =>
          if found = reached then
            report.complaining 1
              ("mv: ".toList ++ quoted source ++ " and ".toList ++
                quoted place ++ " are the same file".toList)
          else
            report.withFiles (movedFiles found reached call.files)
  | fault, _ =>
      report.complaining 1
        (cannot "mv".toList "stat".toList (quoted source)
          (fault.getD .missing))

/-- A program that puts some words to the last one. -/
def putting (program : Text) (step : Text → Call → Text → Report) : Program :=
  fun call =>
    let (_, words) := options call.arguments
    match words.reverse with
    | [] =>
        (Report.ended 0 call).complaining 1
          (missingWord program "missing file operand".toList)
    | [only] =>
        (Report.ended 0 call).complaining 1
          (missingWord program
            ("missing destination file operand after ".toList ++ quoted only))
    | [target, source] => step target call source
    | target :: sources =>
        if call.files.isDirectory (call.location target) then
          forEach (step target) call sources.reverse
        else
          let fault : FileFault :=
            match call.read target with
            | .ok _ => .notDirectory
            | .error fault => fault
          (Report.ended 0 call).complaining 1
            (program ++ ": target ".toList ++ quoted target ++ ": ".toList ++
              fault.reason)

/-- Whether one of several letters is among the options. -/
def hasOption (letters : List Char) (given : List Char) : Bool :=
  letters.any given.contains

/-- Removes a file, or a whole directory where that is asked for. -/
def removeOne (deep force : Bool) (call : Call) (word : Text) : Report :=
  let report := Report.ended 0 call
  let location := call.location word
  match call.files.parentFault? location, call.files.find? location with
  | none, some .directory =>
      if deep then
        report.withFiles
          (call.files.filter fun entry => ¬ location.isPrefixOf entry.1)
      else
        report.complaining 1
          (cannot "rm".toList "remove".toList (quoted word) .isDirectory)
  | none, some (.file _) => report.withFiles (call.files.erase location)
  | fault, _ =>
      if force then
        report
      else
        report.complaining 1
          (cannot "rm".toList "remove".toList (quoted word)
            (fault.getD .missing))

/-- Removes files. -/
def remove : Program := fun call =>
  let (letters, words) := options call.arguments
  let force := hasOption ['f'] letters
  if words = [] ∧ ¬ force then
    (Report.ended 0 call).complaining 1
      (missingWord "rm".toList "missing operand".toList)
  else
    forEach (removeOne (hasOption ['r', 'R'] letters) force) call words

/-- Removes a directory with nothing in it. -/
def removeDirectoryOne (call : Call) (word : Text) : Report :=
  let report := Report.ended 0 call
  let location := call.location word
  let refused := fun (reason : Text) =>
    report.complaining 1
      ("rmdir: failed to remove ".toList ++ quoted word ++ ": ".toList ++
        reason)
  match call.files.parentFault? location, call.files.find? location with
  | none, some .directory =>
      if call.files.below location = [] then
        report.withFiles (call.files.erase location)
      else
        refused "Directory not empty".toList
  | none, some (.file _) => refused FileFault.notDirectory.reason
  | fault, _ => refused (fault.getD .missing).reason

/-- Makes a directory, with its parents where that is asked for. -/
def makeDirectoryOne (deep : Bool) (call : Call) (word : Text) : Report :=
  let made :=
    if deep then
      call.files.makeDirectories (call.location word)
    else
      call.files.makeDirectory (call.location word)
  match made with
  | .ok files => (Report.ended 0 call).withFiles files
  | .error fault =>
      (Report.ended 0 call).complaining 1
        (cannot "mkdir".toList "create directory".toList (curved word) fault)

/-- A program that needs at least one word. -/
def needingWord (program complaint : Text) (work : Program) : Program :=
  fun call =>
    if (options call.arguments).2 = [] then
      (Report.ended 0 call).complaining 1 (missingWord program complaint)
    else
      work call

/-- Makes directories. -/
def makeDirectory : Program :=
  needingWord "mkdir".toList "missing operand".toList fun call =>
    let (letters, words) := options call.arguments
    forEach (makeDirectoryOne (hasOption ['p'] letters)) call words

/-- Makes an empty file where there is nothing. -/
def touchOne (call : Call) (word : Text) : Report :=
  let location := call.location word
  match call.files.parentFault? location, call.files.find? location with
  | none, some _ => Report.ended 0 call
  | none, none =>
      (Report.ended 0 call).withFiles (call.files.put location (.file []))
  | some fault, _ =>
      (Report.ended 0 call).complaining 1
        (cannot "touch".toList "touch".toList (quoted word) fault)

/-- The names directly in a directory, in order, without hidden ones. -/
def namesIn (directory : Location) (files : Files) : List Text :=
  let names := (files.below directory).filterMap fun (location, _) =>
    match location with
    | [name] => if name.head? = some '.' then none else some name
    | _ => none
  names.mergeSort Text.le

/-- Lists a directory, or names a file. -/
def listOne (call : Call) (word : Text) : Report :=
  let report := Report.ended 0 call
  let location := call.location word
  match call.files.parentFault? location, call.files.find? location with
  | none, some .directory =>
      report.printing ((namesIn location call.files).flatMap line)
  | none, some (.file _) => report.printing (line word)
  | fault, _ =>
      report.complaining 2
        (cannot "ls".toList "access".toList (quoted word)
          (fault.getD .missing))

/-- Programs for files and directories by their names. -/
def treePrograms : List (String × Program) := [
  ("cp", putting "cp".toList copyOne),
  ("mv", putting "mv".toList moveOne),
  ("rm", remove),
  ("rmdir", needingWord "rmdir".toList "missing operand".toList fun call =>
    forEach removeDirectoryOne call (options call.arguments).2),
  ("mkdir", makeDirectory),
  ("touch", needingWord "touch".toList "missing file operand".toList
    fun call => forEach touchOne call (options call.arguments).2),
  ("chmod", Report.ended 0),
  ("ls", fun call =>
    match (options call.arguments).2 with
    | [] => listOne call ['.']
    | words => forEach listOne call words)]

end ContractTemplates.Host
