import ContractTemplates.Variable.Definition

namespace ContractTemplates

/-!
# Manifests

The metadata of a template file, checked. The names of its variables are
pairwise distinct, so that every placeholder has at most one definition.
-/

/-- The metadata of a template file. -/
structure Manifest where
  id : Text
  title : RawText
  description : Option RawText
  price : Int
  published : Bool
  definitions : List Definition
  deriving DecidableEq, Repr

namespace Manifest

/-- The most characters of an id. -/
def idLimit : Nat :=
  128

/-- The first name that occurs in a list after it has occurred before. -/
def firstRepeated? (seen : List RawText) : List RawText → Option RawText
  | [] => none
  | name :: rest =>
      if name ∈ seen then
        some name
      else
        firstRepeated? (name :: seen) rest

/-- A list of definitions with distinct names. -/
def checkVariables (datum : Datum) : Checked (List Definition) := do
  let definitions ← Definition.checkList datum
  match firstRepeated? [] (definitions.map Definition.name) with
  | none => .ok definitions
  | some name =>
      Checked.fail
        (.ruleBroken
          ("duplicate variable name '".toList ++ name.shown ++ ['\'']))

/-- A manifest from data of unknown shape. -/
def check (datum : Datum) : Checked Manifest := do
  let entries ← Validation.record "TemplateManifest".toList datum
  let id :=
    Validation.required ["id".toList] (Validation.shortText idLimit) entries
  let title := Validation.required ["title".toList] Validation.text entries
  let description :=
    Validation.optional ["description".toList] none Validation.optionalText
      entries
  let price :=
    Validation.optional ["price".toList] 0 Validation.naturalInteger entries
  let published :=
    Validation.optional ["published".toList] false Validation.boolean entries
  let definitions :=
    Validation.optional ["variables".toList] [] checkVariables entries
  (id.both (title.both (description.both (price.both
    (published.both definitions))))).map
      fun (id, title, description, price, published, definitions) =>
        { id, title, description, price, published, definitions }

/-- No name is repeated exactly if the names are distinct from each other and from those seen. -/
theorem firstRepeated?_eq_none_iff
    (seen names : List RawText) :
    firstRepeated? seen names = none ↔
      names.Nodup ∧ ∀ name ∈ names, name ∉ seen := by
  induction names generalizing seen with
  | nil =>
      simp [firstRepeated?]
  | cons name rest inductionHypothesis =>
      by_cases repeated : name ∈ seen
      · simp [firstRepeated?, repeated]
      · simp only [firstRepeated?, repeated, if_false, inductionHypothesis,
          List.nodup_cons, List.mem_cons, not_or]
        constructor
        · rintro ⟨distinct, fresh⟩
          refine ⟨⟨?_, distinct⟩, ?_⟩
          · intro again
            exact (fresh name again).1 rfl
          · rintro other (rfl | later)
            · exact repeated
            · exact (fresh other later).2
        · rintro ⟨⟨once, distinct⟩, fresh⟩
          refine ⟨distinct, ?_⟩
          intro other later
          refine ⟨?_, fresh other (Or.inr later)⟩
          rintro rfl
          exact once later

end Manifest

end ContractTemplates
