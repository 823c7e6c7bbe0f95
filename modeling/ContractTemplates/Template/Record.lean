import ContractTemplates.Json.Reader
import ContractTemplates.Validation.Moment
import ContractTemplates.Variable.Definition

namespace ContractTemplates

/-!
# Catalogue records

A record is what the catalogue shows of a template: a summary, or a summary with
the source and the version. Records are checked from data of unknown shape in
which the schema of the variables may be a list or the JSON text of one.
-/

/-- What the catalogue lists of a template. -/
structure Summary where
  id : RawText
  title : RawText
  description : Option RawText
  price : Int
  definitions : List Definition
  isPublished : Bool
  createdAt : DateTime
  deriving DecidableEq, Repr

/-- A summary with the source, the version and the time of the last change. -/
structure Detail where
  summary : Summary
  typstContent : RawText
  currentVersion : Int
  updatedAt : DateTime
  deriving DecidableEq, Repr

namespace Summary

/-- A list of definitions, or the JSON text of one. -/
def checkVariables (datum : Datum) : Checked (List Definition) :=
  match datum with
  | .string text =>
      match Json.read text.spelled with
      | .ok value => Definition.checkList (Datum.ofJson value)
      | .error _ => Checked.fail (.ruleBroken "invalid JSON".toList)
  | _ => Definition.checkList datum

/-- The fields of a summary, each checked by itself. -/
def checkFields (entries : List (Datum × Datum)) : Checked Summary :=
  let id := Validation.required ["id".toList] Validation.text entries
  let title := Validation.required ["title".toList] Validation.text entries
  let description :=
    Validation.optional ["description".toList] none Validation.optionalText
      entries
  let price := Validation.required ["price".toList] Validation.integer entries
  let definitions :=
    Validation.required ["variables".toList] checkVariables entries
  let isPublished :=
    Validation.required ["isPublished".toList, "is_published".toList]
      Validation.boolean entries
  let createdAt :=
    Validation.required ["createdAt".toList, "created_at".toList]
      Validation.dateTime entries
  (id.both (title.both (description.both (price.both (definitions.both
    (isPublished.both createdAt)))))).map
      fun (id, title, description, price, definitions, isPublished, createdAt) =>
        { id, title, description, price, definitions, isPublished, createdAt }

/-- A summary from data of unknown shape. -/
def check (datum : Datum) : Checked Summary := do
  checkFields (← Validation.record "TemplateSummary".toList datum)

end Summary

/-- A detailed record from data of unknown shape. -/
def Detail.check (datum : Datum) : Checked Detail := do
  let entries ← Validation.record "TemplateDetail".toList datum
  let summary := Summary.checkFields entries
  let typstContent :=
    Validation.required ["typstContent".toList, "typst_content".toList]
      Validation.text entries
  let currentVersion :=
    Validation.required ["currentVersion".toList, "current_version".toList]
      Validation.integer entries
  let updatedAt :=
    Validation.required ["updatedAt".toList, "updated_at".toList]
      Validation.dateTime entries
  (summary.both (typstContent.both (currentVersion.both updatedAt))).map
    fun (summary, typstContent, currentVersion, updatedAt) =>
      { summary, typstContent, currentVersion, updatedAt }

end ContractTemplates
