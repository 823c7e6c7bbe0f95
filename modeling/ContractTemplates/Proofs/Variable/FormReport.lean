import ContractTemplates.Proofs.Variable.Form
import Mathlib.Data.List.Nodup

namespace ContractTemplates

/-!
# The report on a form

Every field of a form is null, blank or visible, and this alone decides what becomes of it:
`Form.declared_of_null`, `Form.declared_of_blank` and `Form.declared_of_visible`. A field that
offends has one message. `Gathers` takes what the items of a list give, in their order, so that
a report leaves out no field and names none twice.

`Form.resolve_reports` says that a form is refused with the messages of exactly those fields that
offend, and is otherwise resolved to exactly the values of the fields that have one.
-/

/-- What is gathered from items in their order: one result of each that gives a result. -/
inductive Gathers (gives : α → β → Prop) : List α → List β → Prop where
  | nil : Gathers gives [] []
  | cons
      {item : α} {result : β} {items : List α} {results : List β}
      (given : gives item result)
      (rest : Gathers gives items results) :
      Gathers gives (item :: items) (result :: results)
  | skip
      {item : α} {items : List α} {results : List β}
      (none : ∀ result, ¬ gives item result)
      (rest : Gathers gives items results) :
      Gathers gives (item :: items) results

theorem gathers_filterMap
    {gives : α → β → Prop}
    {f : α → Option β}
    (agrees : ∀ item result, gives item result ↔ f item = some result)
    (items : List α) :
    Gathers gives items (items.filterMap f) := by
  induction items with
  | nil =>
      exact .nil
  | cons item rest inductionHypothesis =>
      cases given : f item with
      | none =>
          rw [List.filterMap_cons_none given]
          refine .skip (fun result gives => ?_) inductionHypothesis
          rw [agrees, given] at gives
          cases gives
      | some result =>
          rw [List.filterMap_cons_some given]
          exact .cons ((agrees _ _).mpr given) inductionHypothesis

theorem Gathers.eq_nil_iff
    {gives : α → β → Prop}
    {items : List α}
    {results : List β}
    (gathers : Gathers gives items results) :
    results = [] ↔ ∀ item ∈ items, ∀ result, ¬ gives item result := by
  induction gathers with
  | nil =>
      simp
  | cons given rest inductionHypothesis =>
      refine iff_of_false (List.cons_ne_nil _ _) fun nothing => ?_
      exact nothing _ List.mem_cons_self _ given
  | skip none rest inductionHypothesis =>
      rw [inductionHypothesis, List.forall_mem_cons, and_iff_right none]

/-- Whether raw data are text of blanks alone. -/
def Datum.IsBlank : Datum → Prop
  | .string value => value.shown.strip = []
  | _ => False

theorem Datum.isMissing_iff
    {datum : Datum} :
    datum.isMissing = true ↔ datum = .null ∨ datum.IsBlank := by
  cases datum <;>
    simp [isMissing, IsBlank]

theorem Datum.IsBlank.ne_null
    {datum : Datum}
    (blank : datum.IsBlank) :
    datum ≠ .null := by
  rintro rfl
  exact blank

namespace FieldOutcome

/-- The value of a field, if it has one. -/
def value? : FieldOutcome → Option Value
  | value found => some found
  | _ => none

theorem value?_eq_some_iff
    {outcome : FieldOutcome}
    {found : Value} :
    outcome.value? = some found ↔ outcome = .value found := by
  cases outcome <;>
    simp [value?]

/-- What is said about a field, if it has a problem. -/
def message? (outcome : FieldOutcome) : Option RawText :=
  outcome.problem?.map FieldProblem.message

/-- Recording fields puts the values of those that have one under their names. -/
theorem foldl_record
    (fields : List (RawText × FieldOutcome))
    (values : Values) :
    fields.foldl record values =
      (fields.filterMap fun field => field.2.value?.map (field.1, ·)).foldl
        (fun held pair => Entries.put pair.1 pair.2 held) values := by
  induction fields generalizing values with
  | nil =>
      rfl
  | cons field rest inductionHypothesis =>
      obtain ⟨name, outcome⟩ := field
      rw [List.foldl_cons, inductionHypothesis]
      cases outcome <;>
        rfl

theorem nodup_values
    {fields : List (RawText × FieldOutcome)}
    (distinct : (fields.map Prod.fst).Nodup) :
    ((fields.filterMap fun field => field.2.value?.map (field.1, ·)).map
      Prod.fst).Nodup := by
  rw [List.Nodup, List.pairwise_map] at distinct ⊢
  refine distinct.filterMap _ ?_
  simp only [Option.map_eq_some_iff]
  rintro field other different _ ⟨value, -, rfl⟩ _ ⟨otherValue, -, rfl⟩
  exact different

/-- Fields of distinct names are recorded as they are. -/
theorem foldl_record_of_nodup
    {fields : List (RawText × FieldOutcome)}
    (distinct : (fields.map Prod.fst).Nodup) :
    fields.foldl record [] =
      fields.filterMap fun field => field.2.value?.map (field.1, ·) := by
  rw [foldl_record]
  exact Entries.collect_of_nodup (nodup_values distinct)

end FieldOutcome

namespace Form

/--
What counts for a declared name: what the request sends under it unless that is null, and else
the default of its definition.
-/
inductive IsEffective (form : Form) (definition : Definition) : Datum → Prop where
  | sent
      {datum : Datum}
      (sent : (definition.name, datum) ∈ form)
      (present : datum ≠ .null) :
      form.IsEffective definition datum
  | default
      (unsent : ∀ datum, (definition.name, datum) ∈ form → datum = .null) :
      form.IsEffective definition
        ((definition.defaultValue.map DefaultValue.toDatum).getD .null)

/-- What is said about a declared field that offends. -/
inductive DeclaredFault
    (enforceRequired : Bool)
    (form : Form)
    (definition : Definition) :
    RawText → Prop where
  | missing
      {datum : Datum}
      (effective : form.IsEffective definition datum)
      (absent : datum = .null ∨ datum.IsBlank)
      (enforced : enforceRequired = true)
      (required : definition.required = true) :
      DeclaredFault enforceRequired form definition
        (definition.label ++ " is required".toList)
  | rejected
      {datum : Datum} {fault : ValueFault}
      (effective : form.IsEffective definition datum)
      (present : datum ≠ .null)
      (visible : ¬ datum.IsBlank)
      (rejects : definition.coerce datum = .error fault) :
      DeclaredFault enforceRequired form definition
        (definition.label ++ " ".toList ++ fault.message)

/-- What is said about what is sent under a name without a definition and offends. -/
inductive UndeclaredFault
    (definitions : List Definition) :
    RawText × Datum → RawText → Prop where
  | rejected
      {name : RawText} {datum : Datum} {fault : ValueFault}
      (other : name ∉ definitions.map Definition.name)
      (present : datum ≠ .null)
      (rejects : Value.infer datum = .error fault) :
      UndeclaredFault definitions (name, datum)
        (name ++ ": ".toList ++ fault.message)

variable
  {enforceRequired : Bool}
  {definitions : List Definition}
  {definition : Definition}
  {form : Form}
  {name : RawText}
  {datum : Datum}
  {message : RawText}
  {value : Value}
  {values : Values}

/-- Data that are not null are read under a name exactly if they were sent under it. -/
theorem raw_eq_iff
    (mapping : (form.map Prod.fst).Nodup)
    (present : datum ≠ .null) :
    form.raw name = datum ↔ (name, datum) ∈ form := by
  rw [← Entries.find?_eq_some_iff mapping, raw]
  cases Entries.find? form name with
  | none =>
      simp [present.symm]
  | some held =>
      simp

theorem effective_of_raw_ne_null
    (present : form.raw definition.name ≠ .null) :
    form.effective definition = form.raw definition.name := by
  unfold effective
  split
  · next null =>
      exact absurd null present
  · rfl

theorem isEffective_iff
    (mapping : (form.map Prod.fst).Nodup) :
    form.IsEffective definition datum ↔ form.effective definition = datum := by
  by_cases null : form.raw definition.name = .null
  · have unsent (datum : Datum) (sent : (definition.name, datum) ∈ form) :
        datum = .null := by
      by_contra present
      rw [(raw_eq_iff mapping present).mpr sent] at null
      exact present null
    have default :
        form.effective definition =
          (definition.defaultValue.map DefaultValue.toDatum).getD .null := by
      rw [effective, null]
    constructor
    · rintro (⟨sent, present⟩ | _)
      · exact absurd (unsent _ sent) present
      · exact default
    · rintro rfl
      rw [default]
      exact .default unsent
  · have sent : (definition.name, form.raw definition.name) ∈ form :=
      (raw_eq_iff mapping null).mp rfl
    rw [effective_of_raw_ne_null null]
    constructor
    · rintro (⟨other, present⟩ | unsent)
      · exact (raw_eq_iff mapping present).mpr other
      · exact absurd (unsent _ sent) null
    · rintro rfl
      exact .sent sent null

theorem declared_of_null
    (effective : form.effective definition = .null) :
    form.declared enforceRequired definition =
      if enforceRequired && definition.required then
        .problem (.missing definition.label)
      else
        .absent := by
  simp [declared, effective, Datum.isMissing]

theorem declared_of_blank
    (blank : (form.effective definition).IsBlank) :
    form.declared enforceRequired definition =
      if enforceRequired && definition.required then
        .problem (.missing definition.label)
      else
        .value (.text []) := by
  have missing := Datum.isMissing_iff.mpr (.inr blank)
  unfold declared
  dsimp only
  rw [if_pos missing]
  split
  · rfl
  · split
    · next null =>
        exact absurd null blank.ne_null
    · rfl

theorem declared_of_visible
    (present : form.effective definition ≠ .null)
    (visible : ¬ (form.effective definition).IsBlank) :
    form.declared enforceRequired definition =
      match definition.coerce (form.effective definition) with
      | .ok value => .value value
      | .error fault => .problem (.rejected definition.label fault) := by
  have given : ¬ (form.effective definition).isMissing = true := by
    rw [Datum.isMissing_iff, not_or]
    exact ⟨present, visible⟩
  unfold declared
  exact if_neg given

theorem undeclared_of_present
    (present : datum ≠ .null) :
    undeclared name datum =
      match Value.infer datum with
      | .ok value => .value value
      | .error fault => .problem (.rejectedUndeclared name fault) := by
  cases datum with
  | null =>
      contradiction
  | _ =>
      rfl

theorem message?_of_absent
    (absent : form.effective definition = .null ∨ (form.effective definition).IsBlank) :
    (form.declared enforceRequired definition).message? =
      if enforceRequired && definition.required then
        some (definition.label ++ " is required".toList)
      else
        none := by
  rcases absent with null | blank
  · rw [declared_of_null null]
    split <;>
      rfl
  · rw [declared_of_blank blank]
    split <;>
      rfl

theorem message?_of_visible
    (present : form.effective definition ≠ .null)
    (visible : ¬ (form.effective definition).IsBlank) :
    (form.declared enforceRequired definition).message? =
      match definition.coerce (form.effective definition) with
      | .ok _ => none
      | .error fault => some (definition.label ++ " ".toList ++ fault.message) := by
  rw [declared_of_visible present visible]
  cases definition.coerce (form.effective definition) with
  | ok value =>
      rfl
  | error fault =>
      simp [FieldOutcome.message?, FieldOutcome.problem?, FieldProblem.message,
        Text.raw_cons]

theorem declaredFault_iff
    (mapping : (form.map Prod.fst).Nodup) :
    DeclaredFault enforceRequired form definition message ↔
      (form.declared enforceRequired definition).message? = some message := by
  constructor
  · rintro (⟨effective, absent, enforced, required⟩ |
      ⟨effective, present, visible, rejects⟩)
    · obtain rfl := (isEffective_iff mapping).mp effective
      rw [message?_of_absent absent, enforced, required]
      rfl
    · obtain rfl := (isEffective_iff mapping).mp effective
      rw [message?_of_visible present visible, rejects]
  · have effective : form.IsEffective definition (form.effective definition) :=
      (isEffective_iff mapping).mpr rfl
    intro said
    by_cases absent :
        form.effective definition = .null ∨ (form.effective definition).IsBlank
    · rw [message?_of_absent absent] at said
      split at said
      · next demanded =>
          cases said
          rw [Bool.and_eq_true] at demanded
          exact .missing effective absent demanded.1 demanded.2
      · cases said
    · rw [not_or] at absent
      rw [message?_of_visible absent.1 absent.2] at said
      split at said
      · cases said
      · next fault rejects =>
          cases said
          exact .rejected effective absent.1 absent.2 rejects

theorem undeclaredFault_iff :
    UndeclaredFault definitions (name, datum) message ↔
      name ∉ definitions.map Definition.name ∧
        (undeclared name datum).message? = some message := by
  constructor
  · rintro ⟨other, present, rejects⟩
    refine ⟨other, ?_⟩
    rw [undeclared_of_present present, rejects]
    simp [FieldOutcome.message?, FieldOutcome.problem?, FieldProblem.message,
      Text.raw_cons]
  · rintro ⟨other, said⟩
    by_cases null : datum = .null
    · rw [null] at said
      cases said
    · rw [undeclared_of_present null] at said
      cases inferred : Value.infer datum with
      | ok value =>
          rw [inferred] at said
          cases said
      | error fault =>
          rw [inferred] at said
          cases said
          have rejected := UndeclaredFault.rejected other null inferred
          simpa [FieldProblem.message, Text.raw_cons] using rejected

/-- The messages of the fields that offend: the declared ones first, then the others. -/
def IsReported
    (enforceRequired : Bool)
    (definitions : List Definition)
    (form : Form)
    (messages : List RawText) :
    Prop :=
  ∃ declared undeclared,
    messages = declared ++ undeclared ∧
      Gathers (DeclaredFault enforceRequired form) definitions declared ∧
      Gathers (UndeclaredFault definitions) form undeclared

/-- Whether some field offends. -/
def Offends
    (enforceRequired : Bool)
    (definitions : List Definition)
    (form : Form) :
    Prop :=
  (∃ definition ∈ definitions, ∃ message,
      DeclaredFault enforceRequired form definition message) ∨
    ∃ entry ∈ form, ∃ message, UndeclaredFault definitions entry message

theorem IsReported.eq_nil_iff
    {messages : List RawText}
    (reported : form.IsReported enforceRequired definitions messages) :
    messages = [] ↔ ¬ form.Offends enforceRequired definitions := by
  obtain ⟨declared, undeclared, rfl, first, later⟩ := reported
  rw [List.append_eq_nil_iff, first.eq_nil_iff, later.eq_nil_iff, Offends, not_or]
  simp only [not_exists, not_and]

/-- The problems of all fields, in the order of the fields. -/
def problems
    (enforceRequired : Bool)
    (definitions : List Definition)
    (form : Form) :
    List FieldProblem :=
  (form.outcomes enforceRequired definitions).filterMap fun field => field.2.problem?

theorem resolve_eq_error_iff
    {found : List FieldProblem} :
    form.resolve enforceRequired definitions = .error found ↔
      found = form.problems enforceRequired definitions ∧ found ≠ [] := by
  unfold resolve problems
  dsimp only
  split
  · next none =>
      rw [none]
      exact iff_of_false nofun fun report => report.2 report.1
  · next found nonempty =>
      rw [Except.error.injEq]
      constructor
      · rintro rfl
        exact ⟨rfl, nonempty⟩
      · exact fun same => same.1.symm

/-- A form is resolved exactly if no field has a problem. -/
theorem problems_eq_nil_iff :
    form.problems enforceRequired definitions = [] ↔
      ∃ values, form.resolve enforceRequired definitions = .ok values := by
  rw [problems, List.filterMap_eq_nil_iff]
  constructor
  · intro none
    exact ⟨_, resolve_eq_ok_iff.mpr ⟨none, rfl⟩⟩
  · rintro ⟨values, resolved⟩
    exact (resolve_eq_ok_iff.mp resolved).1

/-- The problems of the names without a definition, in the order of the form. -/
def undeclaredProblems (definitions : List Definition) (form : Form) :
    List FieldProblem :=
  form.filterMap fun entry =>
    if entry.1 ∉ definitions.map Definition.name then
      (undeclared entry.1 entry.2).problem?
    else
      none

/-- The problems of the declared fields come first, then those of the others. -/
theorem problems_eq :
    form.problems enforceRequired definitions =
      (definitions.filterMap fun definition =>
        (form.declared enforceRequired definition).problem?) ++
        form.undeclaredProblems definitions := by
  rw [problems, outcomes, undeclaredProblems, List.filterMap_append, List.filterMap_map,
    List.filterMap_map, List.filterMap_filter]
  refine congrArg₂ (· ++ ·) rfl
    (congrArg (List.filterMap · form) (funext fun entry => ?_))
  simp only [decide_eq_true_eq]
  rfl

theorem messages_problems :
    (form.problems enforceRequired definitions).map FieldProblem.message =
      (definitions.filterMap fun definition =>
        (form.declared enforceRequired definition).message?) ++
        form.filterMap fun entry =>
          if entry.1 ∉ definitions.map Definition.name then
            (undeclared entry.1 entry.2).message?
          else
            none := by
  rw [problems_eq, undeclaredProblems, List.map_append, List.map_filterMap,
    List.map_filterMap]
  refine congrArg₂ (· ++ ·) rfl
    (congrArg (List.filterMap · form) (funext fun entry => ?_))
  split <;>
    rfl

/-- The problems of all fields are reported in the order of the fields. -/
theorem isReported_problems
    (mapping : (form.map Prod.fst).Nodup) :
    form.IsReported enforceRequired definitions
      ((form.problems enforceRequired definitions).map FieldProblem.message) := by
  refine ⟨_, _, messages_problems, ?_, ?_⟩
  · refine gathers_filterMap (fun definition message => ?_) definitions
    exact declaredFault_iff mapping
  · refine gathers_filterMap (fun entry message => ?_) form
    obtain ⟨name, datum⟩ := entry
    rw [undeclaredFault_iff]
    by_cases other : name ∉ definitions.map Definition.name
    · rw [if_pos other, and_iff_right other]
    · rw [if_neg other]
      exact iff_of_false (fun said => other said.1) nofun

theorem nodup_outcomes
    (distinct : (definitions.map Definition.name).Nodup)
    (mapping : (form.map Prod.fst).Nodup) :
    ((form.outcomes enforceRequired definitions).map Prod.fst).Nodup := by
  rw [outcomes, List.map_append, List.nodup_append]
  refine ⟨?_, ?_, ?_⟩
  · rw [List.map_map]
    exact distinct
  · rw [List.map_map]
    exact mapping.sublist (List.filter_sublist.map Prod.fst)
  · rintro _ declared _ other rfl
    rw [List.map_map, List.mem_map] at declared
    obtain ⟨definition, member, rfl⟩ := declared
    exact not_mem_undeclared member other

theorem undeclared_mem_outcomes
    (other : name ∉ definitions.map Definition.name)
    (sent : (name, datum) ∈ form) :
    (name, undeclared name datum) ∈ form.outcomes enforceRequired definitions := by
  refine List.mem_append_right _ (List.mem_map.mpr ⟨(name, datum), ?_, rfl⟩)
  rw [List.mem_filter, decide_eq_true_eq]
  exact ⟨sent, other⟩

/-- What a resolved form holds: the values of the declared fields and of the others. -/
theorem mem_values_iff
    (distinct : (definitions.map Definition.name).Nodup)
    (mapping : (form.map Prod.fst).Nodup)
    (resolved : form.resolve enforceRequired definitions = .ok values) :
    (name, value) ∈ values ↔
      (∃ definition ∈ definitions,
        definition.name = name ∧
          form.declared enforceRequired definition = .value value) ∨
        (name ∉ definitions.map Definition.name ∧
          ∃ datum, (name, datum) ∈ form ∧ undeclared name datum = .value value) := by
  have recorded :
      (name, value) ∈ values ↔
        (name, .value value) ∈ form.outcomes enforceRequired definitions := by
    rw [(resolve_eq_ok_iff.mp resolved).2,
      FieldOutcome.foldl_record_of_nodup (nodup_outcomes distinct mapping),
      List.mem_filterMap]
    simp [FieldOutcome.value?_eq_some_iff]
  rw [recorded, outcomes, List.mem_append]
  refine or_congr ?_ ?_
  · simp
  · rw [List.mem_map]
    constructor
    · rintro ⟨entry, sent, same⟩
      obtain ⟨rfl, gives⟩ := Prod.mk.inj same
      rw [List.mem_filter, decide_eq_true_eq] at sent
      exact ⟨sent.2, entry.2, sent.1, gives⟩
    · rintro ⟨other, datum, sent, gives⟩
      refine ⟨(name, datum), ?_, by rw [gives]⟩
      rw [List.mem_filter, decide_eq_true_eq]
      exact ⟨sent, other⟩

/-- The value of a declared field is the empty text if it is blank, and else what it means. -/
theorem eq_or_coerce_of_declared
    (given : form.declared enforceRequired definition = .value value) :
    ((form.effective definition).IsBlank ∧ value = .text []) ∨
      (¬ (form.effective definition).IsBlank ∧
        definition.coerce (form.effective definition) = .ok value) := by
  by_cases null : form.effective definition = .null
  · rw [declared_of_null null] at given
    split at given <;>
      cases given
  by_cases blank : (form.effective definition).IsBlank
  · rw [declared_of_blank blank] at given
    split at given
    · cases given
    · cases given
      exact .inl ⟨blank, rfl⟩
  · rw [declared_of_visible null blank] at given
    split at given
    · next coerced =>
        cases given
        exact .inr ⟨blank, coerced⟩
    · cases given

/-- A field without a problem has a value exactly if something counts for it. -/
theorem exists_declared_iff
    (accepted : (form.declared enforceRequired definition).problem? = none) :
    (∃ value, form.declared enforceRequired definition = .value value) ↔
      form.effective definition ≠ .null := by
  constructor
  · rintro ⟨value, given⟩ null
    rw [declared_of_null null] at given
    split at given <;>
      cases given
  · intro present
    by_cases blank : (form.effective definition).IsBlank
    · rw [declared_of_blank blank] at accepted ⊢
      split at accepted
      · cases accepted
      · next free =>
          exact ⟨_, if_neg free⟩
    · rw [declared_of_visible present blank] at accepted ⊢
      split at accepted
      · exact ⟨_, rfl⟩
      · cases accepted

theorem infer_of_undeclared
    (given : undeclared name datum = .value value) :
    Value.infer datum = .ok value := by
  by_cases null : datum = .null
  · rw [null] at given
    cases given
  · rw [undeclared_of_present null] at given
    split at given
    · next inferred =>
        cases given
        exact inferred
    · cases given

theorem exists_undeclared_iff
    (accepted : (undeclared name datum).problem? = none) :
    (∃ value, undeclared name datum = .value value) ↔ datum ≠ .null := by
  constructor
  · rintro ⟨value, given⟩ rfl
    cases given
  · intro present
    rw [undeclared_of_present present] at accepted ⊢
    split at accepted
    · exact ⟨_, rfl⟩
    · cases accepted

/-- Whether values are those of exactly the fields of a form that have one. -/
structure IsFilled
    (definitions : List Definition)
    (form : Form)
    (values : Values) :
    Prop where
  distinct : (values.map Prod.fst).Nodup
  names (name : RawText) :
    name ∈ values.map Prod.fst ↔
      (∃ definition ∈ definitions,
        definition.name = name ∧
          ∃ datum, form.IsEffective definition datum ∧ datum ≠ .null) ∨
        (name ∉ definitions.map Definition.name ∧
          ∃ datum, (name, datum) ∈ form ∧ datum ≠ .null)
  declared
    {definition : Definition} {datum : Datum} {value : Value}
    (declared : definition ∈ definitions)
    (effective : form.IsEffective definition datum)
    (given : (definition.name, value) ∈ values) :
    (datum.IsBlank ∧ value = .text []) ∨
      (¬ datum.IsBlank ∧ definition.coerce datum = .ok value)
  undeclared
    {name : RawText} {value : Value}
    (other : name ∉ definitions.map Definition.name)
    (given : (name, value) ∈ values) :
    ∃ datum, (name, datum) ∈ form ∧ Value.infer datum = .ok value

theorem isFilled_of_resolve
    (distinct : (definitions.map Definition.name).Nodup)
    (mapping : (form.map Prod.fst).Nodup)
    (resolved : form.resolve enforceRequired definitions = .ok values) :
    form.IsFilled definitions values where
  distinct := by
    have fields : ((form.outcomes enforceRequired definitions).map Prod.fst).Nodup :=
      nodup_outcomes distinct mapping
    rw [(resolve_eq_ok_iff.mp resolved).2, FieldOutcome.foldl_record_of_nodup fields]
    exact FieldOutcome.nodup_values fields
  names name := by
    have accepted := (resolve_eq_ok_iff.mp resolved).1
    have valued :
        name ∈ values.map Prod.fst ↔ ∃ value, (name, value) ∈ values := by
      simp
    simp only [valued, mem_values_iff distinct mapping resolved, exists_or]
    refine or_congr ?_ ?_
    · constructor
      · rintro ⟨value, definition, member, same, outcome⟩
        refine ⟨definition, member, same, _, (isEffective_iff mapping).mpr rfl, ?_⟩
        exact (exists_declared_iff (accepted _ (declared_mem_outcomes member))).mp
          ⟨value, outcome⟩
      · rintro ⟨definition, member, same, datum, effective, present⟩
        obtain rfl := (isEffective_iff mapping).mp effective
        obtain ⟨value, outcome⟩ :=
          (exists_declared_iff (accepted _ (declared_mem_outcomes member))).mpr present
        exact ⟨value, definition, member, same, outcome⟩
    · constructor
      · rintro ⟨value, other, datum, sent, outcome⟩
        refine ⟨other, datum, sent, ?_⟩
        exact (exists_undeclared_iff
          (accepted _ (undeclared_mem_outcomes other sent))).mp ⟨value, outcome⟩
      · rintro ⟨other, datum, sent, present⟩
        obtain ⟨value, outcome⟩ :=
          (exists_undeclared_iff
            (accepted _ (undeclared_mem_outcomes other sent))).mpr present
        exact ⟨value, other, datum, sent, outcome⟩
  declared {definition datum value} declared effective given := by
    obtain rfl := (isEffective_iff mapping).mp effective
    rcases (mem_values_iff distinct mapping resolved).mp given with
      ⟨other, member, same, outcome⟩ | ⟨undeclared, -⟩
    · obtain rfl := List.inj_on_of_nodup_map distinct member declared same
      exact eq_or_coerce_of_declared outcome
    · exact absurd (List.mem_map_of_mem declared) undeclared
  undeclared {name value} other given := by
    rcases (mem_values_iff distinct mapping resolved).mp given with
      ⟨definition, member, rfl, -⟩ | ⟨-, datum, sent, outcome⟩
    · exact absurd (List.mem_map_of_mem member) other
    · exact ⟨datum, sent, infer_of_undeclared outcome⟩

/--
A form with a field that offends is refused with one message for each such field, in the order
of the fields. Any other form is resolved to the values of exactly those fields for which
something counts.
-/
theorem resolve_reports
    (distinct : (definitions.map Definition.name).Nodup)
    (mapping : (form.map Prod.fst).Nodup) :
    match form.resolve enforceRequired definitions with
    | .error problems =>
        form.Offends enforceRequired definitions ∧
          form.IsReported enforceRequired definitions
            (problems.map FieldProblem.message)
    | .ok values =>
        ¬ form.Offends enforceRequired definitions ∧
          form.IsFilled definitions values := by
  have reported :
      form.IsReported enforceRequired definitions
        ((form.problems enforceRequired definitions).map FieldProblem.message) :=
    isReported_problems mapping
  cases resolved : form.resolve enforceRequired definitions with
  | error found =>
      obtain ⟨rfl, nonempty⟩ := resolve_eq_error_iff.mp resolved
      refine ⟨?_, reported⟩
      by_contra spotless
      exact nonempty (List.map_eq_nil_iff.mp (reported.eq_nil_iff.mpr spotless))
  | ok values =>
      refine ⟨?_, isFilled_of_resolve distinct mapping resolved⟩
      apply reported.eq_nil_iff.mp
      rw [List.map_eq_nil_iff, problems, List.filterMap_eq_nil_iff]
      exact (resolve_eq_ok_iff.mp resolved).1

/-- A party that has to be named, and an amount that is due on a day. -/
def paymentDefinitions : List Definition := [
  ⟨"party".toList, .text, "Party".toList, true, none, none⟩,
  ⟨"due".toList, .date, "Due".toList, true,
    some (.text "2024-02-29".toList), none⟩,
  ⟨"amount".toList, .number, "Amount".toList, false, none, none⟩]

/-- A form that blanks the party, spells out the amount and sends a list. -/
def paymentForm : Form := [
  ("extra".toList, .list []),
  ("amount".toList, .string "many".toList),
  ("due".toList, .null),
  ("party".toList, .string " ".toList)]

/-- Each field that offends has its message, the one without a definition last. -/
theorem resolve_reports_payment :
    ∃ problems,
      paymentForm.resolve true paymentDefinitions = .error problems ∧
        problems.map FieldProblem.message = [
          "Party is required".toList,
          "Amount must be a valid number".toList,
          "extra: unsupported value of type list".toList] ∧
        paymentForm.Offends true paymentDefinitions ∧
        paymentForm.IsReported true paymentDefinitions
          (problems.map FieldProblem.message) := by
  have distinct : (paymentDefinitions.map Definition.name).Nodup := by
    decide
  have mapping : (paymentForm.map Prod.fst).Nodup := by
    decide
  have resolved :
      paymentForm.resolve true paymentDefinitions =
        .error [
          .missing "Party".toList,
          .rejected "Amount".toList .badNumeral,
          .rejectedUndeclared "extra".toList (.unsupported "list".toList)] := by
    rfl
  have reports := @resolve_reports true paymentDefinitions paymentForm distinct mapping
  rw [resolved] at reports
  exact ⟨_, resolved, rfl, reports⟩

end Form

end ContractTemplates
