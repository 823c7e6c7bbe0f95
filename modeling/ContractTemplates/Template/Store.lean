import ContractTemplates.Text.Basic
import ContractTemplates.Validation.Scalar

namespace ContractTemplates

/-!
# The store

The store holds one row for each template and one row for each version that a
template has had. Ids are unique among templates and among versions. Prices and
version numbers are stored in 64 bits, and texts in UTF-8: a row with a larger
number, or with half a character in its title or its description, is refused.

A template row holds its schema as text; what the text says is read only when it
is needed.
-/

/-- A stored template. -/
structure TemplateRow where
  id : Text
  title : RawText
  description : Option RawText
  price : Int
  source : Text
  /-- The definitions of the variables as JSON text. -/
  schema : Text
  version : Int
  isPublished : Bool
  deriving DecidableEq, Repr

/-- The source and the schema that a template had in one version. -/
structure VersionRow where
  id : Text
  templateId : Text
  version : Int
  source : Text
  schema : Text
  changelog : Option Text
  createdBy : Option Text
  deriving DecidableEq, Repr

/-- The rows, in the order in which they were added. -/
structure Store where
  templates : List TemplateRow
  versions : List VersionRow
  deriving DecidableEq, Repr

/-- Why the store refuses a row or a question. -/
inductive StoreFault where
  /-- A number that does not fit into 64 bits. -/
  | tooLarge
  /-- A title or a description with half a character. -/
  | notText
  /-- A row without a needed value, or with an id that is taken. -/
  | refused
  /-- A search text that is too long to be matched. -/
  | patternTooLong
  deriving DecidableEq, Repr

namespace VersionRow

/-- The id of a version: the id of the template and the number of the version. -/
def idOf (templateId : Text) (version : Int) : Text :=
  templateId ++ "_v".toList ++ Text.ofInt version

/-- The row of the version that a template has now. -/
def ofTemplate (row : TemplateRow) (changelog : Text) : VersionRow where
  id := idOf row.id row.version
  templateId := row.id
  version := row.version
  source := row.source
  schema := row.schema
  changelog := some changelog
  createdBy := none

end VersionRow

namespace TemplateRow

/-- Why a row cannot be stored, if it cannot. -/
def fault? (row : TemplateRow) : Option StoreFault :=
  if ¬ row.title.isText ∨ ¬ row.description.all RawText.isText then
    some .notText
  else if ¬ Validation.fitsWord row.price ∨ ¬ Validation.fitsWord row.version then
    some .tooLarge
  else
    none

/-- Whether a row can be stored. -/
def fits (row : TemplateRow) : Bool :=
  row.fault?.isNone

/-- The title as it is stored. -/
def titleText (row : TemplateRow) : Text :=
  row.title.shown

/-- The description as it is stored; empty if there is none. -/
def descriptionText (row : TemplateRow) : Text :=
  (row.description.map RawText.shown).getD []

end TemplateRow

namespace Store

/-- The store without rows. -/
def empty : Store :=
  ⟨[], []⟩

/-- The template with an id. -/
def find? (store : Store) (id : Text) : Option TemplateRow :=
  store.templates.find? fun row => row.id = id

/-- The versions of a template. -/
def versionsOf (store : Store) (id : Text) : List VersionRow :=
  store.versions.filter fun row => row.templateId = id

/-- The rows with one of them changed to another row of the same id. -/
def replaced (row : TemplateRow) (rows : List TemplateRow) : List TemplateRow :=
  rows.map fun held => if held.id = row.id then row else held

/-- The store with a changed template. -/
def update (row : TemplateRow) (store : Store) : Store :=
  { store with templates := replaced row store.templates }

/-- The store with one more template. -/
def addTemplate (row : TemplateRow) (store : Store) : Store :=
  { store with templates := store.templates ++ [row] }

/-- The store with one more version. -/
def addVersion (row : VersionRow) (store : Store) : Store :=
  { store with versions := store.versions ++ [row] }

end Store

/-- A row as it is handed in, with values that may be missing. -/
structure TemplateDraft where
  id : Option Text
  title : Option Text
  description : Option Text
  price : Option Int
  source : Option Text
  schema : Option Text
  version : Option Int
  isPublished : Option Bool
  deriving DecidableEq, Repr

/-- The row of a draft; id, title and source have no default. -/
def TemplateDraft.row? (draft : TemplateDraft) : Option TemplateRow := do
  let id ← draft.id
  let title ← draft.title
  let source ← draft.source
  some {
    id
    title := title.raw
    source
    description := draft.description.map Text.raw
    price := draft.price.getD 0
    schema := draft.schema.getD "[]".toList
    version := draft.version.getD 1
    isPublished := draft.isPublished.getD false }

/-- The store with the row of a draft, or the reason why the row is refused. -/
def Store.insert (draft : TemplateDraft) (store : Store) :
    Except StoreFault Store :=
  if ¬ Validation.fitsWord (draft.price.getD 0) ∨
      ¬ Validation.fitsWord (draft.version.getD 1) then
    .error .tooLarge
  else
    match draft.row? with
    | none => .error .refused
    | some row =>
        if (store.find? row.id).isSome then
          .error .refused
        else
          .ok (store.addTemplate row)

end ContractTemplates
