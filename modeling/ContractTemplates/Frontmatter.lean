import ContractTemplates.Yaml.Value

namespace ContractTemplates

/-!
# Metadata blocks

A template file may begin with a metadata block: a line `/*---`, the metadata,
and a line that begins with `---*/`, each after blanks. `Block.find?` splits a
content at its block, and `Frontmatter.read` loads the metadata.

The blanks after the opening mark reach as far as possible as long as a closing
mark can still be found; the metadata then reach to the first closing mark. The
opening mark and the closing mark each need a line feed of their own, so where
only blanks stand between them the opening gives way.
-/

/-- The metadata and the body of a file, as they are written. -/
structure Block where
  metadata : Text
  body : Text
  deriving DecidableEq, Repr

namespace Block

/-- The mark that opens a block. -/
def opening : Text :=
  "/*---".toList

/-- The mark that closes a block. -/
def closing : Text :=
  "---*/".toList

/-- What follows a line feed, blanks and the closing mark. -/
def afterCloser? : Text → Option Text
  | '\n' :: rest => Text.after? closing (rest.dropWhile Text.isBlank)
  | _ => none

/-- The shortest text before a closer, and what follows the closer. -/
def upToCloser? : Text → Option (Text × Text)
  | [] => none
  | c :: rest =>
      match afterCloser? (c :: rest) with
      | some later => some ([], later)
      | none => (upToCloser? rest).map fun (before, later) => (c :: before, later)

/--
The split of a text after the opening mark at the last line feed of its leading
blanks after which a closer follows.
-/
def afterOpening? : Text → Option (Text × Text)
  | [] => none
  | c :: rest =>
      if Text.isBlank c then
        match afterOpening? rest with
        | some found => some found
        | none => if c = '\n' then upToCloser? rest else none
      else
        none

/-- What follows blanks of the same line and at most one line feed. -/
def bodyAfter (rest : Text) : Text :=
  match rest.dropWhile Text.isLineBlank with
  | '\n' :: body => body
  | body => body

/-- The block of a content, if it begins with one. -/
def find? (content : Text) : Option Block := do
  let rest ← Text.after? opening (content.dropWhile Text.isBlank)
  let (metadata, later) ← afterOpening? rest
  some ⟨metadata, bodyAfter later⟩

end Block

/-- Why metadata could not be loaded. -/
inductive FrontmatterError where
  | yaml (error : Yaml.Error)
  /-- The metadata are neither a mapping nor empty. -/
  | notMapping
  deriving DecidableEq, Repr

/-- Metadata and body of a file. -/
structure Frontmatter where
  metadata : List (Datum × Datum)
  body : Text

namespace Frontmatter

/-- The metadata of a loaded block; what is empty, zero or false counts as none. -/
def entriesOf (datum : Datum) :
    Except FrontmatterError (List (Datum × Datum)) :=
  match datum with
  | .map entries => .ok entries
  | _ => if datum.isVacant then .ok [] else .error .notMapping

/-- Splits a content into metadata and body; without a block all is body. -/
def read (content : Text) : Except FrontmatterError Frontmatter :=
  match Block.find? content with
  | none => .ok ⟨[], content⟩
  | some block => do
      let datum ← (Yaml.load block.metadata).mapError .yaml
      let metadata ← entriesOf datum
      .ok ⟨metadata, block.body⟩

end Frontmatter

end ContractTemplates
