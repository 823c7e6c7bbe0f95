import ContractTemplates.Text.Basic

namespace ContractTemplates

/-!
# Paths

A path is a root, which may be missing, and the names on the way from there.
Empty names and single points are dropped when a path is read, so that a path
has one text; two points stay, because only the place where the path is followed
says what is above it. `Path.joined` puts one path after another, and
`Path.resolve` follows a path from a working directory to a location.
-/

/-- Where a path begins. -/
inductive PathRoot where
  | relative
  | absolute
  /-- The root that is written with exactly two slashes. -/
  | doubled
  deriving DecidableEq, Repr

/-- A path without empty names and single points. -/
structure Path where
  root : PathRoot
  names : List Text
  deriving DecidableEq, Repr

/-- The names from the root of the file system to a file or a directory. -/
abbrev Location := List Text

namespace Path

/-- Whether a name of a path counts. -/
def isName (name : Text) : Bool :=
  name ≠ [] && name ≠ ['.']

/-- The root that a text begins with. -/
def rootOf (text : Text) : PathRoot :=
  match text with
  | ['/', '/'] => .doubled
  | '/' :: '/' :: c :: _ => if c = '/' then .absolute else .doubled
  | '/' :: _ => .absolute
  | _ => .relative

/-- The path that a text names. -/
def ofText (text : Text) : Path where
  root := rootOf text
  names := (Text.split '/' text).filter isName

/-- The text of a root. -/
def rootText : PathRoot → Text
  | .relative => []
  | .absolute => ['/']
  | .doubled => ['/', '/']

/-- The text of a path; a path without names and root is a single point. -/
def text (path : Path) : Text :=
  match path.root, path.names with
  | .relative, [] => ['.']
  | root, names => rootText root ++ Text.joined ['/'] names

/-- The path that leads on from another; one with a root of its own replaces it. -/
def joined (base path : Path) : Path :=
  match path.root with
  | .relative => ⟨base.root, base.names ++ path.names⟩
  | _ => path

/-- The location one name further on; two points lead back. -/
def follow (location : Location) (name : Text) : Location :=
  if name = ['.', '.'] then
    location.dropLast
  else
    location ++ [name]

/-- The location that a path denotes for someone who works in a directory. -/
def resolve (directory : Location) (path : Path) : Location :=
  match path.root with
  | .relative => path.names.foldl follow directory
  | _ => path.names.foldl follow []

/-- An absolute path denotes the same location in every directory. -/
theorem resolve_eq_of_root_ne
    {path : Path}
    (rooted : path.root ≠ .relative)
    (first second : Location) :
    path.resolve first = path.resolve second := by
  unfold resolve
  cases shape : path.root with
  | relative =>
      exact absurd shape rooted
  | absolute =>
      rfl
  | doubled =>
      rfl

/-- A path that leads on from another is followed from where that one leads. -/
theorem resolve_joined
    {base path : Path}
    (relative : path.root = .relative)
    (directory : Location) :
    (base.joined path).resolve directory =
      path.resolve (base.resolve directory) := by
  unfold joined resolve
  rw [relative]
  cases base.root <;>
    simp [List.foldl_append]

end Path

end ContractTemplates
