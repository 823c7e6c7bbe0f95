import ContractTemplates.Validation.Scalar

namespace ContractTemplates.Validation

/-!
# Checks of fields

The fields of a record are looked up by name. A field may be known under
several names; the first one that is present counts, and issues are reported
under it. A missing field is reported under the first name.
-/

/-- The first of several names that is present, with its value. -/
def present? (names : List Text) (entries : List (Datum × Datum)) :
    Option (Text × Datum) :=
  names.findSome? fun name =>
    (Datum.entry? name entries).map fun datum => (name, datum)

/-- The checked value of a field that has to be present. -/
def required
    (names : List Text)
    (check : Datum → Checked α)
    (entries : List (Datum × Datum)) :
    Checked α :=
  match present? names entries with
  | some (name, datum) => Checked.within (.field name) (check datum)
  | none => Checked.within (.field (names.headD [])) (Checked.fail .missing)

/-- The checked value of a field, or `absent` if it is not present. -/
def optional
    (names : List Text)
    (absent : α)
    (check : Datum → Checked α)
    (entries : List (Datum × Datum)) :
    Checked α :=
  match present? names entries with
  | some (name, datum) => Checked.within (.field name) (check datum)
  | none => .ok absent

/-- The entries of a mapping that stands for a record of some model. -/
def record (model : Text) : Datum → Checked (List (Datum × Datum))
  | .map entries => .ok entries
  | _ => Checked.fail (.notRecord model)

/-- The checked items of a list. -/
def list (check : Datum → Checked α) : Datum → Checked (List α)
  | .list items => Checked.items check items
  | .pair key value => Checked.items check [key, value]
  | .set members => Checked.items check members
  | _ => Checked.fail .notList

end ContractTemplates.Validation
