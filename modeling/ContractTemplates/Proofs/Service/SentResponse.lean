import ContractTemplates.Proofs.Variable.Definition
import ContractTemplates.Service.Response
import ContractTemplates.Template.Schema

namespace ContractTemplates

/-!
# Which responses can be sent

A response is sent in UTF-8, so it is an internal error instead if some string in it has
half a character. Numbers and the names of members have no say in that. Of a stored row,
whose title and description are texts, only the definitions have: `TemplateRow.isText_summary`
and `TemplateRow.isText_detail`.
-/

namespace Json

theorem areText_eq_all
    (items : List Json) :
    areText items = items.all isText := by
  induction items with
  | nil =>
      rfl
  | cons item rest inductionHypothesis =>
      rw [areText, List.all_cons, inductionHypothesis]

@[simp]
theorem isText_integer
    (value : Int) :
    (integer value).isText = true :=
  rfl

@[simp]
theorem isText_boolean
    (value : Bool) :
    (boolean value).isText = true :=
  rfl

@[simp]
theorem isText_record
    (members : List (String × Json)) :
    (record members).isText = members.all fun member => member.2.isText := by
  show haveText (members.map _) = _
  induction members with
  | nil =>
      rfl
  | cons member rest inductionHypothesis =>
      obtain ⟨name, value⟩ := member
      rw [List.map_cons, haveText, inductionHypothesis, Text.isText_raw, Bool.true_and,
        List.all_cons]

@[simp]
theorem isText_string
    (text : Text) :
    (string text).isText = true :=
  Text.isText_raw text

@[simp]
theorem isText_stringOrNull
    (raw : Option RawText) :
    (stringOrNull raw).isText = raw.all RawText.isText := by
  cases raw <;>
    rfl

mutual

/-- Leaving out numbers that are not finite leaves all strings. -/
@[simp]
theorem isText_finite
    (value : Json) :
    value.finite.isText = value.isText := by
  match value with
  | .null | .boolean _ | .string _ | .number (.integer _) =>
      rfl
  | .number (.double (.finite _)) | .number (.double (.infinite _))
  | .number (.double .notANumber) =>
      rfl
  | .array items =>
      simp only [finite, isText, areText_finiteItems items]
  | .object members =>
      simp only [finite, isText, haveText_finiteMembers members]

theorem areText_finiteItems
    (items : List Json) :
    areText (finiteItems items) = areText items := by
  match items with
  | [] =>
      rfl
  | item :: rest =>
      simp only [finiteItems, areText, isText_finite item, areText_finiteItems rest]

theorem haveText_finiteMembers
    (members : List (RawText × Json)) :
    haveText (finiteMembers members) = haveText members := by
  match members with
  | [] =>
      rfl
  | (name, value) :: rest =>
      simp only [finiteMembers, haveText, isText_finite value,
        haveText_finiteMembers rest]

end

end Json

namespace Definition

theorem isText_optionsJson
    (options : List RawText) :
    (optionsJson options).isText = options.all RawText.isText := by
  unfold optionsJson Json.isText
  rw [Json.areText_eq_all, List.all_map]
  rfl

/-- A definition is shown as a text exactly if all its strings are texts. -/
@[simp]
theorem isText_toFullJson
    (definition : Definition) :
    definition.toFullJson.isText = definition.isText := by
  obtain ⟨name, kind, label, required, defaultValue, options⟩ := definition
  have defaultText :
      ((defaultValue.map DefaultValue.toJson).getD .null).isText =
        defaultValue.all fun value => value.toJson.isText := by
    cases defaultValue <;>
      rfl
  have optionsText :
      ((options.map optionsJson).getD .null).isText =
        (options.getD []).all RawText.isText := by
    cases options with
    | none =>
        rfl
    | some options =>
        exact isText_optionsJson options
  simp [toFullJson, commonMembers, isText, choices, Json.isText, Json.haveText,
    defaultText, optionsText, Bool.and_assoc]

end Definition

namespace TemplateRow

variable
  {row : TemplateRow}

/-- The title and the description of a row that can be stored are texts. -/
theorem isText_of_fits
    (fits : row.fits = true) :
    row.title.isText = true ∧ row.description.all RawText.isText = true := by
  unfold TemplateRow.fits fault? at fits
  split at fits
  · cases fits
  · next texts =>
      simpa only [not_or, Decidable.not_not] using texts

/-- Whether the definitions in the schema of a row are free of halves of characters. -/
def HasTexts (row : TemplateRow) : Prop :=
  ∀ definitions, Schema.read row.schema = .ok definitions →
    ∀ definition ∈ definitions, definition.isText = true

theorem hasTexts_iff
    {definitions : List Definition}
    (read : Schema.read row.schema = .ok definitions) :
    row.HasTexts ↔ definitions.all Definition.isText = true := by
  unfold HasTexts
  rw [read, List.all_eq_true]
  exact ⟨fun texts => texts definitions rfl, fun texts _ same => Except.ok.inj same ▸ texts⟩

variable
  (timeMark : Text)
  (definitions : List Definition)

/-- The summary of a row that can be stored is a text exactly if the definitions are. -/
theorem isText_summary
    (fits : row.fits = true) :
    (Json.record (row.summaryMembers timeMark definitions)).isText =
      definitions.all Definition.isText := by
  obtain ⟨titleText, descriptionText⟩ := isText_of_fits fits
  have definitionsText :
      (Json.array (definitions.map fun definition =>
        definition.toFullJson.finite)).isText =
        definitions.all Definition.isText := by
    simp [Json.isText, Json.areText_eq_all, Function.comp_def]
  have titleJson : (Json.string row.title).isText = true :=
    titleText
  rw [Json.isText_record]
  simp [summaryMembers, definitionsText, descriptionText, titleJson]

/-- So is the full record. -/
theorem isText_detail
    (fits : row.fits = true) :
    (Json.record
        (row.summaryMembers timeMark definitions ++ row.detailMembers timeMark)).isText =
      definitions.all Definition.isText := by
  rw [Json.isText_record, List.all_append, ← Json.isText_record,
    isText_summary timeMark definitions fits]
  simp [detailMembers]

end TemplateRow

namespace Response

variable
  {status : Nat}
  {body : Json}

theorem sent_of_isText
    (isText : body.isText = true) :
    sent (.json status body) = .json status body :=
  if_pos isText

theorem sent_of_not_isText
    (halved : body.isText = false) :
    sent (.json status body) = unforeseen :=
  if_neg (by simp [halved])

end Response

end ContractTemplates
