import ContractTemplates.Proofs.Entries
import ContractTemplates.Proofs.Placeholder.Filling
import ContractTemplates.Proofs.Variable.Rendering

namespace ContractTemplates

/-!
# Resolved forms

A form that is resolved has no problem in any field, and the value of a field is
under its name unless a later field of the same name replaces it. Where the names
of the definitions are distinct nothing can replace the value of a declared field:
names without a definition are never declared ones.

Every required field therefore has a visible value, and
`Form.required_placeholders_filled` says that this value takes the place of every
occurrence of the field in every source.
-/

namespace FieldOutcome

/-- Fields of other names leave the value of a name. -/
theorem find?_foldl_record_other
    {name : RawText}
    {fields : List (RawText × FieldOutcome)}
    (others : name ∉ fields.map Prod.fst)
    (values : Values) :
    Entries.find? (fields.foldl record values) name =
      Entries.find? values name := by
  induction fields generalizing values with
  | nil =>
      rfl
  | cons field rest inductionHypothesis =>
      rw [List.map_cons, List.mem_cons, not_or] at others
      rw [List.foldl_cons, inductionHypothesis others.2]
      obtain ⟨other, outcome⟩ := field
      cases outcome with
      | absent =>
          rfl
      | value found =>
          exact Entries.find?_put_other others.1 found values
      | problem found =>
          rfl

/-- The last value that is recorded under a name is found. -/
theorem find?_foldl_record
    {name : RawText}
    {found : Value}
    {before later : List (RawText × FieldOutcome)}
    (last : name ∉ later.map Prod.fst)
    (values : Values) :
    Entries.find?
        ((before ++ (name, .value found) :: later).foldl record values) name =
      some found := by
  rw [List.foldl_append, List.foldl_cons, find?_foldl_record_other last]
  exact Entries.find?_put_self name found _

end FieldOutcome

namespace Form

variable
  {enforceRequired : Bool}
  {definitions : List Definition}
  {definition : Definition}
  {form : Form}
  {values : Values}

/-- A form is resolved exactly if no field has a problem; all values are recorded. -/
theorem resolve_eq_ok_iff :
    form.resolve enforceRequired definitions = .ok values ↔
      (∀ field ∈ form.outcomes enforceRequired definitions,
        field.2.problem? = none) ∧
        values =
          (form.outcomes enforceRequired definitions).foldl
            FieldOutcome.record [] := by
  unfold resolve
  dsimp only
  split
  · next none =>
      rw [List.filterMap_eq_nil_iff] at none
      constructor
      · intro resolved
        cases resolved
        exact ⟨none, rfl⟩
      · rintro ⟨_, rfl⟩
        rfl
  · next problems =>
      constructor
      · intro resolved
        cases resolved
      · rintro ⟨none, _⟩
        exact absurd (List.filterMap_eq_nil_iff.mpr none) problems

/-- A form is resolved as soon as it is known what becomes of each of its fields. -/
theorem resolve_congr
    {otherRequired : Bool}
    {otherDefinitions : List Definition}
    {other : Form}
    (same :
      other.outcomes otherRequired otherDefinitions =
        form.outcomes enforceRequired definitions) :
    other.resolve otherRequired otherDefinitions =
      form.resolve enforceRequired definitions := by
  unfold resolve
  rw [same]

/-- What counts for a definition is decided by what is sent under its name. -/
theorem effective_congr
    {other : Form}
    (same : other.raw definition.name = form.raw definition.name) :
    other.effective definition = form.effective definition := by
  unfold effective
  rw [same]

/-- What becomes of a declared field is decided by what counts for it. -/
theorem declared_congr
    {other : Form}
    (same : other.effective definition = form.effective definition) :
    other.declared enforceRequired definition =
      form.declared enforceRequired definition := by
  unfold declared
  rw [same]

theorem declared_mem_outcomes
    (declared : definition ∈ definitions) :
    (definition.name, form.declared enforceRequired definition) ∈
      form.outcomes enforceRequired definitions :=
  List.mem_append_left _ (List.mem_map_of_mem declared)

/-- No declared field of a resolved form has a problem. -/
theorem problem?_declared_of_resolve
    (resolved : form.resolve enforceRequired definitions = .ok values)
    (declared : definition ∈ definitions) :
    (form.declared enforceRequired definition).problem? = none :=
  (resolve_eq_ok_iff.mp resolved).1 _ (declared_mem_outcomes declared)

theorem not_mem_undeclared
    (declared : definition ∈ definitions) :
    definition.name ∉
      ((form.filter fun entry =>
          entry.1 ∉ definitions.map Definition.name).map fun entry =>
        (entry.1, undeclared entry.1 entry.2)).map Prod.fst := by
  intro present
  simp only [List.map_map, List.mem_map, List.mem_filter] at present
  obtain ⟨entry, ⟨_, other⟩, same⟩ := present
  have name : entry.1 = definition.name := same
  rw [name] at other
  exact absurd (List.mem_map_of_mem declared) (by simpa using other)

/-- The value of a declared field is found under its name if names are distinct. -/
theorem find?_of_declared
    {found : Value}
    (distinct : (definitions.map Definition.name).Nodup)
    (resolved : form.resolve enforceRequired definitions = .ok values)
    (declared : definition ∈ definitions)
    (outcome : form.declared enforceRequired definition = .value found) :
    Entries.find? values definition.name = some found := by
  obtain ⟨_, rfl⟩ := resolve_eq_ok_iff.mp resolved
  obtain ⟨before, later, rfl⟩ := List.append_of_mem declared
  have fresh : definition.name ∉ later.map Definition.name := by
    rw [List.map_append, List.map_cons, List.nodup_append] at distinct
    exact (List.nodup_cons.mp distinct.2.1).1
  have shape :
      form.outcomes enforceRequired (before ++ definition :: later) =
        before.map (fun earlier =>
            (earlier.name, form.declared enforceRequired earlier)) ++
          (definition.name, .value found) ::
            (later.map (fun other =>
                (other.name, form.declared enforceRequired other)) ++
              (form.filter fun entry =>
                  entry.1 ∉
                    (before ++ definition :: later).map Definition.name).map
                fun entry => (entry.1, undeclared entry.1 entry.2)) := by
    unfold outcomes
    simp [outcome]
  rw [shape]
  apply FieldOutcome.find?_foldl_record
  rw [List.map_append, List.mem_append, not_or]
  constructor
  · rw [List.map_map]
    exact fresh
  · exact not_mem_undeclared declared

/-- A required field without a problem has a value that is coerced from visible data. -/
theorem declared_of_required
    (required : definition.required = true)
    (accepted : (form.declared true definition).problem? = none) :
    ∃ found,
      form.declared true definition = .value found ∧
        definition.coerce (form.effective definition) = .ok found ∧
        (form.effective definition).isMissing = false := by
  unfold declared at accepted ⊢
  dsimp only at accepted ⊢
  cases missing : (form.effective definition).isMissing with
  | true =>
      simp [missing, required, FieldOutcome.problem?] at accepted
  | false =>
      cases coerced : definition.coerce (form.effective definition) with
      | error fault =>
          simp [missing, coerced, FieldOutcome.problem?] at accepted
      | ok found =>
          exact ⟨found, by simp, rfl, rfl⟩

theorem exists_visible_of_required
    (distinct : (definitions.map Definition.name).Nodup)
    (resolved : form.resolve true definitions = .ok values)
    (declared : definition ∈ definitions)
    (required : definition.required = true) :
    ∃ found,
      Entries.find? values definition.name = some found ∧
        found.render.IsVisible := by
  obtain ⟨accepted, _⟩ := resolve_eq_ok_iff.mp resolved
  obtain ⟨found, outcome, coerced, present⟩ :=
    declared_of_required required
      (accepted _ (declared_mem_outcomes declared))
  exact ⟨found, find?_of_declared distinct resolved declared outcome,
    definition.isVisible_of_coerce coerced present⟩

/--
A required field of a resolved form has a visible value, and the text of this value
takes the place of the field wherever it occurs in a source.
-/
theorem required_placeholders_filled
    (distinct : (definitions.map Definition.name).Nodup)
    (resolved : form.resolve true definitions = .ok values)
    (declared : definition ∈ definitions)
    (required : definition.required = true) :
    ∃ found,
      Entries.find? values definition.name = some found ∧
        found.render.IsVisible ∧
        ∀ source,
          ∃ parts,
            Composes source (Entries.find? values) parts
                (substitute source (Entries.find? values)) ∧
              ∀ position,
                OccursAt source position definition.name →
                parts[position]? = some found.render := by
  obtain ⟨found, given, visible⟩ :=
    exists_visible_of_required distinct resolved declared required
  refine ⟨found, given, visible, fun source => ?_⟩
  have composes := composes_substitute source (Entries.find? values)
  exact ⟨_, composes, fun position occurs =>
    composes.part_of_occursAt occurs given⟩

/-- A party that has to be named, a choice that has a default, and notes. -/
def tenancyDefinitions : List Definition := [
  ⟨"party".toList, .text, "Party".toList, true, none, none⟩,
  ⟨"mutual".toList, .boolean, "Mutual".toList, true,
    some (.boolean true), none⟩,
  ⟨"notes".toList, .text, "Notes".toList, false, none, none⟩]

/-- A form that names the party, blanks the notes and sends a null and more. -/
def tenancyForm : Form := [
  ("notes".toList, .string " ".toList),
  ("mutual".toList, .null),
  ("party".toList, .string " 2024-03-15 Ltd".toList),
  ("more".toList, Datum.integer 1)]

/-- The default of a required field is what fills it when null is sent. -/
theorem required_placeholders_filled_tenancy :
    ∃ definition ∈ tenancyDefinitions,
      definition.required = true ∧
        definition.defaultValue = some (.boolean true) ∧
        ∃ values,
          tenancyForm.resolve true tenancyDefinitions = .ok values ∧
            ∃ found,
              Entries.find? values definition.name = some found ∧
                found.render.IsVisible := by
  have distinct : (tenancyDefinitions.map Definition.name).Nodup := by
    decide
  have resolved :
      tenancyForm.resolve true tenancyDefinitions =
        .ok [
          ("party".toList, .text " 2024-03-15 Ltd".toList),
          ("mutual".toList, .boolean true),
          ("notes".toList, .text []),
          ("more".toList, .number (.integer 1))] := by
    rfl
  have declared :
      (⟨"mutual".toList, .boolean, "Mutual".toList, true,
        some (.boolean true), none⟩ : Definition) ∈ tenancyDefinitions := by
    decide
  obtain ⟨found, given, visible, _⟩ :=
    required_placeholders_filled distinct resolved declared rfl
  exact ⟨_, declared, rfl, rfl, _, resolved, found, given, visible⟩

end Form

end ContractTemplates
