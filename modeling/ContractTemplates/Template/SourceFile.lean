import ContractTemplates.Files
import ContractTemplates.Frontmatter
import ContractTemplates.Template.Manifest
import ContractTemplates.Template.Schema

namespace ContractTemplates

/-!
# Template files

Template files are the files of a directory, at any depth, whose names end in
`.typ`. Such a file describes a template if it has metadata and these are a
manifest. A file with bad metadata is passed over, like one without any; a file
that is no text, or whose metadata cannot be worked out, stops whoever reads it.
-/

/-- Why the reading of template files stops. -/
inductive SourceFault where
  | isDirectory
  | notUtf8
  /-- A value of the metadata that does not exist. -/
  | badMetadata (error : Yaml.Error)
  /-- A default with more digits than can be written. -/
  | tooManyDigits
  deriving DecidableEq, Repr

/-- A template as a file describes it. -/
structure SourceTemplate where
  manifest : Manifest
  body : Text
  deriving DecidableEq, Repr

namespace SourceTemplate

/-- The schema as it is stored. -/
def schema (template : SourceTemplate) : Text :=
  Schema.write template.manifest.definitions

end SourceTemplate

/-- The text with every kind of line break replaced by a line feed. -/
def Text.withLineFeeds : Text → Text
  | [] => []
  | '\r' :: '\n' :: rest => '\n' :: withLineFeeds rest
  | '\r' :: rest => '\n' :: withLineFeeds rest
  | c :: rest => c :: withLineFeeds rest

namespace SourceFile

/-- Whether an error is a fault of the document, and not of one of its values. -/
def isMalformed : Yaml.Error → Bool
  | .badValue | .noDigits | .unknownWord | .notTimestamp | .mappedTimestamp
  | .tooLarge => false
  | _ => true

/-- The template that a text describes, if it describes one. -/
def ofText (text : Text) : Except SourceFault (Option SourceTemplate) :=
  match Frontmatter.read text with
  | .error .notMapping => .ok none
  | .error (.yaml error) =>
      if isMalformed error then
        .ok none
      else
        .error (.badMetadata error)
  | .ok frontmatter =>
      if frontmatter.metadata = [] then
        .ok none
      else
        match Manifest.check (.map frontmatter.metadata) with
        | .error _ => .ok none
        | .ok manifest =>
            if Schema.isWritable manifest.definitions then
              .ok (some ⟨manifest, frontmatter.body⟩)
            else
              .error .tooManyDigits

/-- The template that a file describes, if it describes one. -/
def read : FileEntry → Except SourceFault (Option SourceTemplate)
  | .directory => .error .isDirectory
  | .file content =>
      match Text.ofUtf8? content with
      | none => .error .notUtf8
      | some text => ofText text.withLineFeeds

/-- What the names of template files end in. -/
def ending : Text :=
  ".typ".toList

/-- Whether a location has the name of a template file. -/
def isNamed (location : Location) : Bool :=
  location.getLast?.any ending.isSuffixOf

/-- What has the name of a template file in a directory, in the order of locations. -/
def all (directory : Location) (files : Files) : List FileEntry :=
  let named := (files.below directory).filter fun entry => isNamed entry.1
  (named.mergeSort fun a b => Files.locationLe a.1 b.1).map Prod.snd

end SourceFile

end ContractTemplates
