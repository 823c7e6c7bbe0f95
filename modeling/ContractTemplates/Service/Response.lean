import ContractTemplates.Template.Document
import ContractTemplates.Template.Record
import ContractTemplates.Template.Sync
import ContractTemplates.DataUrl

namespace ContractTemplates

/-!
# Responses

A response is a JSON value or a text with a status, or a location to which the
request is sent on. Here are the responses to everything that can come of a
request: listed and single templates, a sync, a compiled document, and all that
can go wrong on the way. Numbers that are not finite are null in a response. A
response is sent in UTF-8, so one with half a character cannot be sent.

Times are not kept by the store. Where a response shows one it shows a mark that
is handed in.
-/

/-- A response to a request. -/
inductive Response where
  | json (status : Nat) (body : Json)
  | text (status : Nat) (body : Text)
  /-- Status 307, with an empty text. -/
  | redirect (location : Text)
  deriving Repr

/-- A JSON object with members in the given order. -/
def Json.record (members : List (String × Json)) : Json :=
  .object (members.map fun (name, value) => (Text.raw name.toList, value))

mutual

/-- The value with null for numbers that are not finite. -/
def Json.finite : Json → Json
  | .number (.double (.finite value)) => .number (.double (.finite value))
  | .number (.double _) => .null
  | .array items => .array (finiteItems items)
  | .object members => .object (finiteMembers members)
  | value => value

/-- The items with null for numbers that are not finite. -/
def Json.finiteItems : List Json → List Json
  | [] => []
  | item :: rest => item.finite :: finiteItems rest

/-- The members with null for numbers that are not finite. -/
def Json.finiteMembers : List (RawText × Json) → List (RawText × Json)
  | [] => []
  | (name, value) :: rest => (name, value.finite) :: finiteMembers rest

end

namespace TemplateRow

/-- The definitions of a row, as far as they can be shown. -/
def shownVariables (row : TemplateRow) : Checked (List Definition) :=
  Summary.checkVariables (.string row.schema)

/-- What a summary of a row shows. -/
def summaryMembers
    (timeMark : Text)
    (row : TemplateRow)
    (definitions : List Definition) :
    List (String × Json) := [
  ("id", .string row.id),
  ("title", .string row.title),
  ("description", Json.stringOrNull row.description),
  ("price", Json.integer row.price),
  ("variables", .array (definitions.map fun definition =>
    definition.toFullJson.finite)),
  ("isPublished", .boolean row.isPublished),
  ("createdAt", .string timeMark)]

/-- What a row shows besides its summary. -/
def detailMembers (timeMark : Text) (row : TemplateRow) :
    List (String × Json) := [
  ("typstContent", .string row.source),
  ("currentVersion", Json.integer row.version),
  ("updatedAt", .string timeMark)]

/-- A row as it is listed. -/
def toSummaryJson (timeMark : Text) (row : TemplateRow) : Checked Json :=
  row.shownVariables.map fun definitions =>
    Json.record (row.summaryMembers timeMark definitions)

/-- A row as it is shown alone. -/
def toDetailJson (timeMark : Text) (row : TemplateRow) : Checked Json :=
  row.shownVariables.map fun definitions =>
    Json.record
      (row.summaryMembers timeMark definitions ++ row.detailMembers timeMark)

end TemplateRow

namespace Response

/-- The response to what nobody has foreseen. -/
def unforeseen : Response :=
  .text 500 "Internal Server Error".toList

/-- A response that says what is wrong. -/
def detail (status : Nat) (value : Json) : Response :=
  .json status (Json.record [("detail", value)])

/-- A response that says in one text what is wrong. -/
def complaint (status : Nat) (text : Text) : Response :=
  detail status (.string text)

/-- The response for a path without a route. -/
def nowhere : Response :=
  complaint 404 "Not Found".toList

/-- The response for a method that no route of a path takes. -/
def wrongMethod : Response :=
  complaint 405 "Method Not Allowed".toList

/-- The response for a template that is not there, or may not be used. -/
def unknownTemplate : Response :=
  complaint 404 "Template not found".toList

/-- The response for a body that could not be read at all. -/
def unreadableBody : Response :=
  complaint 400 "There was an error parsing the body".toList

/-- A step of the way to an issue. -/
def stepJson : Step → Json
  | .field name => .string name
  | .index position => Json.integer position

/-- An issue of a request. -/
def issueJson (issue : Issue) : Json :=
  Json.record [
    ("type", .string issue.flaw.code),
    ("loc", .array (issue.path.map stepJson)),
    ("msg", .string issue.flaw.message)]

/-- The response to a request with issues. -/
def invalid (issues : List Issue) : Response :=
  detail 422 (.array (issues.map issueJson))

/-- The response with a value, if it can be shown. -/
def shown : Checked Json → Response
  | .ok value => .json 200 value
  | .error _ => unforeseen

/-- The response with listed templates. -/
def catalogue (timeMark : Text) :
    Except StoreFault (List TemplateRow) → Response
  | .ok rows =>
      shown
        ((Checked.all (rows.map (TemplateRow.toSummaryJson timeMark))).map
          .array)
  | .error _ => unforeseen

/-- The response with one template. -/
def template (timeMark : Text) : Option TemplateRow → Response
  | some row => shown (row.toDetailJson timeMark)
  | none => unknownTemplate

/-- The number of some things. -/
def count (texts : List Text) : Text :=
  Nat.toDigits 10 texts.length

/-- The response to a sync that went through. -/
def synced (report : SyncReport) : Response :=
  .json 200 (Json.record [
    ("created", .array (report.created.map fun id : Text => .string id)),
    ("updated", .array (report.updated.map fun id : Text => .string id)),
    ("message", .string
      (count report.created ++ " created, ".toList ++ count report.updated ++
        " updated".toList))])

/-- The response for a document that was not made. -/
def failure : DocumentFault → Response
  | .notFound _ => unknownTemplate
  | .badForm problems =>
      detail 422
        (.array (problems.map fun problem => .string problem.message))
  | .notCompiled (.job (.timedOut timeout)) =>
      complaint 504 (CompileFault.timedOut timeout).message
  | .notCompiled (.job fault) =>
      complaint 502 ("PDF compilation failed: ".toList ++ fault.message)
  | .notCompiled .notText | .badSchema _ => unforeseen

/-- The response to a request to compile. -/
def document : Except DocumentFault Document → Response
  | .ok made =>
      .json 200 (Json.record [
        ("pdfDataUrl", .string (DataUrl.ofDocument made.content)),
        ("fileName", .string made.fileName)])
  | .error fault => failure fault

/-- The response about the state of the service. -/
def health (command : Text) (isInstalled : Bool) : Response :=
  .json 200 (Json.record [
    ("status", .string "ok".toList),
    ("service", .string "contract-builder".toList),
    ("typst", Json.record [
      ("binary", .string command),
      ("installed", .boolean isInstalled)])])

/-- The response as it is sent; one that UTF-8 cannot spell is an internal error. -/
def sent : Response → Response
  | .json status body =>
      if body.isText then .json status body else unforeseen
  | response => response

end Response

end ContractTemplates
