import ContractTemplates.Proofs.Variable.FormReport

namespace ContractTemplates

/-!
# Values of the declared kinds

`Definition.Admits` says which values a definition makes of data: those of its kind, where an
option is the one that was named and a plain field takes data as they are. A declared field of a
resolved form holds nothing if nothing counts for it, the empty text if it was blanked, and else a
value that its definition admits.

Which of these it holds is decided by what is sent under its own name. `Form.resolve_keeps_kinds`
adds that nothing else that is sent can change it, and that no number comes from a truth value.
-/

/-- The values that a definition makes of data. -/
inductive Definition.Admits (definition : Definition) (datum : Datum) :
    Value → Prop where
  | number
      {found : Number}
      (kind : definition.kind = .number) :
      definition.Admits datum (.number found)
  | boolean
      {truth : Bool}
      (kind : definition.kind = .boolean) :
      definition.Admits datum (.boolean truth)
  | date
      {day : Date}
      (kind : definition.kind = .date)
      (exist : DayExists day.year day.month day.day) :
      definition.Admits datum (.date day)
  | select
      {option : RawText}
      (kind : definition.kind = .select)
      (member : option ∈ definition.choices)
      (named : datum = .string option) :
      definition.Admits datum (.text option)
  | text
      {value : Value}
      (kind : definition.kind = .text)
      (inferred : Value.infer datum = .ok value) :
      definition.Admits datum value

namespace Definition

variable
  {definition : Definition}
  {datum : Datum}
  {value : Value}

/-- A definition admits what it coerces data to. -/
theorem admits_of_coerce
    (coerced : definition.coerce datum = .ok value) :
    definition.Admits datum value := by
  unfold coerce at coerced
  cases kind : definition.kind with
  | number =>
      rw [kind] at coerced
      obtain ⟨found, rfl⟩ := Value.exists_of_toNumber coerced
      exact .number kind
  | boolean =>
      rw [kind] at coerced
      obtain ⟨truth, rfl⟩ := Value.exists_of_toBoolean coerced
      exact .boolean kind
  | date =>
      rw [kind] at coerced
      obtain ⟨day, rfl⟩ := Value.exists_of_toDate coerced
      exact .date kind day.exist
  | select =>
      rw [kind] at coerced
      obtain ⟨option, member, rfl, rfl⟩ := Value.exists_of_toOption coerced
      exact .select kind member rfl
  | text =>
      rw [kind] at coerced
      exact .text kind coerced

/-- Where the empty text is admitted, it was given. -/
theorem Admits.isBlank_of_empty
    (admits : definition.Admits datum (.text [])) :
    datum.IsBlank := by
  have given : datum = .string [] := by
    cases admits with
    | select kind member named =>
        exact named
    | text kind inferred =>
        exact Value.eq_string_of_infer inferred
  rw [given]
  rfl

/-- A truth value stays what it is, and is no number. -/
theorem coerce_boolean
    {truth : Bool}
    (coerced : definition.coerce (.boolean truth) = .ok value) :
    definition.kind ≠ .number ∧ value = .boolean truth := by
  unfold coerce at coerced
  cases kind : definition.kind with
  | boolean =>
      rw [kind] at coerced
      cases coerced
      exact ⟨nofun, rfl⟩
  | text =>
      rw [kind] at coerced
      cases coerced
      exact ⟨nofun, rfl⟩
  | _ =>
      rw [kind] at coerced
      cases coerced

end Definition

namespace Form

/--
What is held under the name of a declared field: nothing if nothing counts for it, the empty text
if it was blanked, and else a value that its definition admits. A field that is demanded is neither
without a value nor blank.
-/
inductive Holds
    (enforceRequired : Bool)
    (form : Form)
    (definition : Definition) :
    Option Value → Prop where
  | absent
      (effective : form.IsEffective definition .null)
      (free : definition.required = false ∨ enforceRequired = false) :
      Holds enforceRequired form definition none
  | cleared
      {datum : Datum}
      (effective : form.IsEffective definition datum)
      (blank : datum.IsBlank)
      (free : definition.required = false ∨ enforceRequired = false) :
      Holds enforceRequired form definition (some (.text []))
  | admitted
      {datum : Datum} {value : Value}
      (effective : form.IsEffective definition datum)
      (present : datum ≠ .null)
      (visible : ¬ datum.IsBlank)
      (admits : definition.Admits datum value) :
      Holds enforceRequired form definition (some value)

variable
  {enforceRequired : Bool}
  {definitions : List Definition}
  {definition : Definition}
  {form : Form}
  {values : Values}

/-- Only a field that was blanked, and may be, holds the empty text. -/
theorem Holds.of_empty
    (holds : form.Holds enforceRequired definition (some (.text []))) :
    ∃ datum,
      form.IsEffective definition datum ∧ datum.IsBlank ∧
        (definition.required = false ∨ enforceRequired = false) := by
  cases holds with
  | cleared effective blank free =>
      exact ⟨_, effective, blank, free⟩
  | admitted effective present visible admits =>
      exact absurd admits.isBlank_of_empty visible

/-- What is held under the name of a declared field is the value of the field. -/
theorem find?_resolved
    (distinct : (definitions.map Definition.name).Nodup)
    (mapping : (form.map Prod.fst).Nodup)
    (resolved : form.resolve enforceRequired definitions = .ok values)
    (declared : definition ∈ definitions) :
    Entries.find? values definition.name =
      (form.declared enforceRequired definition).value? := by
  cases outcome : form.declared enforceRequired definition with
  | value found =>
      exact find?_of_declared distinct resolved declared outcome
  | problem found =>
      have accepted := problem?_declared_of_resolve resolved declared
      rw [outcome] at accepted
      cases accepted
  | absent =>
      -- What stands under the name would come from another definition of that name, or from
      -- an entry without one.
      apply Entries.find?_eq_none_of_not_mem
      intro named
      obtain ⟨⟨_, value⟩, held, rfl⟩ := List.mem_map.mp named
      rcases (mem_values_iff distinct mapping resolved).mp held with
        ⟨other, member, same, given⟩ | ⟨undeclared, -⟩
      · obtain rfl := List.inj_on_of_nodup_map distinct member declared same
        rw [outcome] at given
        cases given
      · exact undeclared (List.mem_map_of_mem declared)

theorem free_of_not_demanded
    (free : ¬ (enforceRequired && definition.required) = true) :
    definition.required = false ∨ enforceRequired = false := by
  rw [Bool.and_eq_true, not_and_or, Bool.not_eq_true, Bool.not_eq_true] at free
  exact free.symm

/-- The value of a declared field without a problem is one that the field may hold. -/
theorem holds_of_declared
    (mapping : (form.map Prod.fst).Nodup)
    (accepted : (form.declared enforceRequired definition).problem? = none) :
    form.Holds enforceRequired definition
      (form.declared enforceRequired definition).value? := by
  have effective : form.IsEffective definition (form.effective definition) :=
    (isEffective_iff mapping).mpr rfl
  by_cases null : form.effective definition = .null
  · rw [declared_of_null null] at accepted ⊢
    split at accepted
    · cases accepted
    · next free =>
        rw [if_neg free]
        exact .absent (null ▸ effective) (free_of_not_demanded free)
  by_cases blank : (form.effective definition).IsBlank
  · rw [declared_of_blank blank] at accepted ⊢
    split at accepted
    · cases accepted
    · next free =>
        rw [if_neg free]
        exact .cleared effective blank (free_of_not_demanded free)
  · rw [declared_of_visible null blank] at accepted ⊢
    split at accepted
    · next value coerced =>
        exact .admitted effective null blank (Definition.admits_of_coerce coerced)
    · cases accepted

/-- A truth value that counts for a field is its value, and the field is not one for numbers. -/
theorem boolean_of_declared
    {truth : Bool}
    (effective : form.effective definition = .boolean truth)
    (accepted : (form.declared enforceRequired definition).problem? = none) :
    definition.kind ≠ .number ∧
      (form.declared enforceRequired definition).value? = some (.boolean truth) := by
  have present : form.effective definition ≠ .null := by
    rw [effective]
    nofun
  have visible : ¬ (form.effective definition).IsBlank := by
    rw [effective]
    exact id
  rw [declared_of_visible present visible, effective] at accepted ⊢
  split at accepted
  · next value coerced =>
      obtain ⟨kind, rfl⟩ := Definition.coerce_boolean coerced
      exact ⟨kind, rfl⟩
  · cases accepted

/-- Whether two forms send the same under every declared name. -/
def SendsSame (definitions : List Definition) (form other : Form) : Prop :=
  ∀ definition ∈ definitions, other.raw definition.name = form.raw definition.name

theorem SendsSame.declared
    {other : Form}
    (same : form.SendsSame definitions other)
    (member : definition ∈ definitions) :
    other.declared enforceRequired definition =
      form.declared enforceRequired definition :=
  declared_congr (effective_congr (same definition member))

/-- Whether values are of the declared kinds, and depend on nothing but the declared names. -/
structure KeepsKinds
    (enforceRequired : Bool)
    (definitions : List Definition)
    (form : Form)
    (values : Values) :
    Prop where
  declared
    {definition : Definition}
    (declared : definition ∈ definitions) :
    form.Holds enforceRequired definition (Entries.find? values definition.name)
  blanked
    {definition : Definition}
    (declared : definition ∈ definitions)
    (empty : Entries.find? values definition.name = some (.text [])) :
    ∃ datum,
      form.IsEffective definition datum ∧ datum.IsBlank ∧
        (definition.required = false ∨ enforceRequired = false)
  undisturbed
    {definition : Definition} {other : Form} {otherValues : Values}
    (declared : definition ∈ definitions)
    (mapping : (other.map Prod.fst).Nodup)
    (same : form.SendsSame definitions other)
    (resolved : other.resolve enforceRequired definitions = .ok otherValues) :
    Entries.find? otherValues definition.name =
      Entries.find? values definition.name
  boolean
    {definition : Definition} {truth : Bool}
    (declared : definition ∈ definitions)
    (effective : form.IsEffective definition (.boolean truth)) :
    definition.kind ≠ .number ∧
      Entries.find? values definition.name = some (.boolean truth)

/--
A declared field of a resolved form holds a value of its kind, or none if nothing counts for it,
or the empty text if it was blanked and is not demanded. What is sent under other names does not
change it, and no field for numbers takes a truth value.
-/
theorem resolve_keeps_kinds
    (distinct : (definitions.map Definition.name).Nodup)
    (mapping : (form.map Prod.fst).Nodup)
    (resolved : form.resolve enforceRequired definitions = .ok values) :
    form.KeepsKinds enforceRequired definitions values := by
  have holds
      {definition : Definition}
      (declared : definition ∈ definitions) :
      form.Holds enforceRequired definition
        (Entries.find? values definition.name) := by
    rw [find?_resolved distinct mapping resolved declared]
    exact holds_of_declared mapping (problem?_declared_of_resolve resolved declared)
  constructor
  case declared =>
    exact holds
  case blanked =>
    intro definition declared empty
    exact (empty ▸ holds declared).of_empty
  case undisturbed =>
    intro definition other otherValues declared otherMapping same otherResolved
    rw [find?_resolved distinct mapping resolved declared,
      find?_resolved distinct otherMapping otherResolved declared, same.declared declared]
  case boolean =>
    intro definition truth declared effective
    rw [find?_resolved distinct mapping resolved declared]
    exact boolean_of_declared ((isEffective_iff mapping).mp effective)
      (problem?_declared_of_resolve resolved declared)

/-- A definition of each kind; the number of guests has a default. -/
def bookingDefinitions : List Definition := [
  ⟨"guests".toList, .number, "Guests".toList, true, some (.text " 2 ".toList), none⟩,
  ⟨"breakfast".toList, .boolean, "Breakfast".toList, true, none, none⟩,
  ⟨"arrival".toList, .date, "Arrival".toList, true, none, none⟩,
  ⟨"room".toList, .select, "Room".toList, true, none,
    some ["single".toList, "double".toList]⟩,
  ⟨"pets".toList, .text, "Pets".toList, false, none, none⟩,
  ⟨"notes".toList, .text, "Notes".toList, false, none, none⟩]

/-- A form that leaves out the guests, blanks the notes and sends a name of its own. -/
def bookingForm : Form := [
  ("room".toList, .string "double".toList),
  ("breakfast".toList, .string "True".toList),
  ("arrival".toList, .string "2024-02-29T10:30".toList),
  ("pets".toList, .boolean true),
  ("source".toList, .string "12".toList),
  ("notes".toList, .string "  ".toList)]

/-- The same form without the name of its own. -/
def plainBookingForm : Form :=
  Entries.erase "source".toList bookingForm

/-- Each field holds a value of its kind, with and without the name that is not declared. -/
theorem resolve_keeps_kinds_ofBooking :
    ∃ values otherValues,
      bookingForm.resolve true bookingDefinitions = .ok values ∧
        plainBookingForm.resolve true bookingDefinitions = .ok otherValues ∧
        bookingForm.KeepsKinds true bookingDefinitions values ∧
        Entries.find? values "guests".toList = some (.number (.integer 2)) ∧
        Entries.find? values "pets".toList = some (.boolean true) ∧
        Entries.find? values "notes".toList = some (.text []) ∧
        ∀ definition ∈ bookingDefinitions,
          Entries.find? otherValues definition.name =
            Entries.find? values definition.name := by
  have distinct : (bookingDefinitions.map Definition.name).Nodup := by
    decide
  have mapping : (bookingForm.map Prod.fst).Nodup := by
    decide
  have resolved :
      bookingForm.resolve true bookingDefinitions =
        .ok [
          ("guests".toList, .number (.integer 2)),
          ("breakfast".toList, .boolean true),
          ("arrival".toList, .date ⟨2024, 2, 29, by decide⟩),
          ("room".toList, .text "double".toList),
          ("pets".toList, .boolean true),
          ("notes".toList, .text []),
          ("source".toList, .text "12".toList)] := by
    rfl
  have plainResolved :
      plainBookingForm.resolve true bookingDefinitions =
        .ok [
          ("guests".toList, .number (.integer 2)),
          ("breakfast".toList, .boolean true),
          ("arrival".toList, .date ⟨2024, 2, 29, by decide⟩),
          ("room".toList, .text "double".toList),
          ("pets".toList, .boolean true),
          ("notes".toList, .text [])] := by
    rfl
  have keeps := resolve_keeps_kinds distinct mapping resolved
  refine ⟨_, _, resolved, plainResolved, keeps, rfl, rfl, rfl, ?_⟩
  intro definition declared
  have plainMapping : (plainBookingForm.map Prod.fst).Nodup := by
    decide
  have same : bookingForm.SendsSame bookingDefinitions plainBookingForm := by
    simp only [SendsSame, bookingDefinitions, List.forall_mem_cons]
    exact ⟨rfl, rfl, rfl, rfl, rfl, rfl, nofun⟩
  exact keeps.undisturbed declared plainMapping same plainResolved

end Form

end ContractTemplates
