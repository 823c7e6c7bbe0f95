import ContractTemplates.Entries
import ContractTemplates.Variable.Coercion

namespace ContractTemplates

/-!
# Filled forms

A form is what a request sends: raw data under names. `Form.resolve` checks it
against the definitions of a template. A name that is absent or null takes the
default of its definition. What is then missing or blank is a problem if the
field is required and required fields are enforced; otherwise a missing field
has no value and a blank one has the empty text, which clears its placeholder.
Names without a definition are accepted by the kind of their data.

Either every name has its value, or all problems are reported: those of the
definitions first, in their order, then those of the other names in theirs.
-/

/-- Raw data under the names of a request, in the order of the request. -/
abbrev Form := List (RawText × Datum)

/-- What is wrong with a field of a form. -/
inductive FieldProblem where
  | missing (label : RawText)
  | rejected (label : RawText) (fault : ValueFault)
  | rejectedUndeclared (name : RawText) (fault : ValueFault)
  deriving DecidableEq, Repr

/-- A problem in words. -/
def FieldProblem.message : FieldProblem → RawText
  | missing label => label ++ " is required".toList
  | rejected label fault => label ++ .char ' ' :: fault.message
  | rejectedUndeclared name fault =>
      name ++ .char ':' :: .char ' ' :: fault.message

/-- What becomes of a field. -/
inductive FieldOutcome where
  | absent
  | value (value : Value)
  | problem (problem : FieldProblem)
  deriving DecidableEq, Repr

/-- The values under their names, in the order in which they were found. -/
abbrev Values := List (RawText × Value)

namespace FieldOutcome

/-- The problem of a field, if it has one. -/
def problem? : FieldOutcome → Option FieldProblem
  | problem found => some found
  | _ => none

/-- Adds the value of a field to the values found so far. -/
def record (values : Values) (field : RawText × FieldOutcome) : Values :=
  match field.2 with
  | value found => Entries.put field.1 found values
  | _ => values

end FieldOutcome

/-- Whether raw data count as no value: null, or text of blanks alone. -/
def Datum.isMissing : Datum → Bool
  | .null => true
  | .string value => value.shown.strip.isEmpty
  | _ => false

namespace Form

/-- The raw data under a name; null if there are none. -/
def raw (form : Form) (name : RawText) : Datum :=
  (Entries.find? form name).getD .null

/-- The raw data of a definition, or its default if there are none. -/
def effective (form : Form) (definition : Definition) : Datum :=
  match form.raw definition.name with
  | .null => (definition.defaultValue.map DefaultValue.toDatum).getD .null
  | datum => datum

/-- What becomes of a declared field. -/
def declared (enforceRequired : Bool) (form : Form) (definition : Definition) :
    FieldOutcome :=
  let datum := form.effective definition
  if datum.isMissing then
    if enforceRequired && definition.required then
      .problem (.missing definition.label)
    else
      match datum with
      | .null => .absent
      | _ => .value (.text [])
  else
    match definition.coerce datum with
    | .ok value => .value value
    | .error fault => .problem (.rejected definition.label fault)

/-- What becomes of a name without a definition. -/
def undeclared (name : RawText) (datum : Datum) : FieldOutcome :=
  match datum with
  | .null => .absent
  | _ =>
      match Value.infer datum with
      | .ok value => .value value
      | .error fault => .problem (.rejectedUndeclared name fault)

/-- What becomes of every field: the declared ones first, then the others. -/
def outcomes
    (enforceRequired : Bool)
    (definitions : List Definition)
    (form : Form) :
    List (RawText × FieldOutcome) :=
  let names := definitions.map Definition.name
  definitions.map (fun definition =>
      (definition.name, declared enforceRequired form definition)) ++
    (form.filter fun entry => entry.1 ∉ names).map fun entry =>
      (entry.1, undeclared entry.1 entry.2)

/-- The values of a form, or all its problems. -/
def resolve
    (enforceRequired : Bool)
    (definitions : List Definition)
    (form : Form) :
    Except (List FieldProblem) Values :=
  let fields := form.outcomes enforceRequired definitions
  match fields.filterMap fun field => field.2.problem? with
  | [] => .ok (fields.foldl FieldOutcome.record [])
  | problems => .error problems

end Form

/-- The problems of a form in one line. -/
def FieldProblem.summary (problems : List FieldProblem) : RawText :=
  match problems with
  | [] => "Invalid variable values".toList
  | _ => RawText.joined "; ".toList (problems.map message)

end ContractTemplates
