import ContractTemplates.Proofs.Json.RoundTrip
import ContractTemplates.Proofs.Validation.Checked
import ContractTemplates.Variable.Definition

namespace ContractTemplates

/-!
# Definitions that are written and checked again

A definition that was checked once is well-formed, and a well-formed definition
is written as an object that is checked to be the same definition. The default
keeps its kind on the way, and what is not given stays missing. Writing the object
as text loses no more than merging does, and merging keeps a definition well-formed.
-/

namespace DefaultValue

/-- The default with its string merged. -/
def merged : DefaultValue → DefaultValue
  | text value => text value.merged
  | value => value

@[simp]
theorem merged_merged
    (value : DefaultValue) :
    value.merged.merged = value.merged := by
  cases value <;>
    simp [merged]

theorem merged_of_isText
    {value : DefaultValue}
    (isText : value.toJson.isText = true) :
    value.merged = value := by
  cases value with
  | text raw =>
      exact congrArg text (RawText.merged_of_isText isText)
  | boolean | number =>
      rfl

theorem toJson_merged
    (value : DefaultValue) :
    value.toJson.merged = value.merged.toJson := by
  cases value <;>
    rfl

/-- A default that was written is checked to be the same default. -/
theorem check_toJson
    (value : DefaultValue) :
    check (Datum.ofJson value.toJson) = .ok (some value) := by
  cases value with
  | text value =>
      rfl
  | boolean value =>
      rfl
  | number value =>
      rfl

end DefaultValue

namespace VariableKind

theorem check_word
    (kind : VariableKind) :
    check (.string kind.word) = .ok kind := by
  refine Checked.bind_eq_ok.mpr ⟨some kind.word, ?_, ?_⟩
  · rw [Validation.whole_raw]
    rfl
  · dsimp only [Option.bind_some]
    rw [ofWord?_word]

end VariableKind

namespace Definition

/-- The definition with all its strings merged. -/
def merged (definition : Definition) : Definition :=
  { definition with
    name := definition.name.merged
    label := definition.label.merged
    defaultValue := definition.defaultValue.map DefaultValue.merged
    options := definition.options.map (List.map RawText.merged) }

/-- Whether all strings of a definition are free of halves. -/
def isText (definition : Definition) : Bool :=
  definition.name.isText && definition.label.isText &&
    definition.defaultValue.all (fun value => value.toJson.isText) &&
    definition.choices.all RawText.isText

/-- Merging changes no definition without halves. -/
theorem merged_of_isText
    {definition : Definition}
    (isText : definition.isText = true) :
    definition.merged = definition := by
  obtain ⟨name, kind, label, required, defaultValue, options⟩ := definition
  simp only [Definition.isText, Bool.and_eq_true, List.all_eq_true] at isText
  obtain ⟨⟨⟨nameText, labelText⟩, defaultText⟩, optionsText⟩ := isText
  have sameDefault : defaultValue.map DefaultValue.merged = defaultValue := by
    cases defaultValue with
    | none =>
        rfl
    | some value =>
        exact congrArg some (DefaultValue.merged_of_isText defaultText)
  have sameOptions : options.map (List.map RawText.merged) = options := by
    cases options with
    | none =>
        rfl
    | some options =>
        have each : options.map RawText.merged = options.map id :=
          List.map_congr_left fun option member =>
            RawText.merged_of_isText (optionsText option member)
        exact congrArg some (each.trans (List.map_id options))
  simp only [merged, RawText.merged_of_isText nameText,
    RawText.merged_of_isText labelText, sameDefault, sameOptions]

/-- Merging a definition again changes nothing. -/
@[simp]
theorem merged_merged
    (definition : Definition) :
    definition.merged.merged = definition.merged := by
  simp [merged, Function.comp_def]

/-- What every definition satisfies that has been checked. -/
structure IsValid (definition : Definition) : Prop where
  isNamed :
    ∃ name : Text, definition.name = name ∧ Validation.isName name = true ∧
      name.length ≤ nameLimit
  hasChoices : definition.kind = .select → definition.choices ≠ []

/-- A name that is checked with success is a name of limited length. -/
theorem name_of_check
    {limit : Nat}
    {datum : Datum}
    {value : Text}
    (success : Validation.name limit datum = .ok value) :
    Validation.isName value = true ∧ value.length ≤ limit := by
  obtain ⟨found, short, accepted⟩ := Checked.bind_eq_ok.mp success
  obtain ⟨raw, _, taken⟩ := Checked.bind_eq_ok.mp short
  obtain ⟨text, _, kept⟩ := Checked.bind_eq_ok.mp taken
  split at accepted
  next isName =>
    cases accepted
    split at kept
    next long =>
      cases kept
    next notLong =>
      cases kept
      exact ⟨isName, Nat.le_of_not_lt notLong⟩
  next notName =>
    cases accepted

/-- A definition that is checked with success is valid. -/
theorem isValid_of_check
    {datum : Datum}
    {definition : Definition}
    (success : check datum = .ok definition) :
    definition.IsValid := by
  obtain ⟨entries, _, rest⟩ := Checked.bind_eq_ok.mp success
  obtain ⟨found, fields, choices⟩ := Checked.bind_eq_ok.mp rest
  unfold checkChoices at choices
  split at choices
  next empty =>
    cases choices
  next chosen =>
    cases choices
    obtain ⟨⟨name, kind, label, required, defaultValue, options⟩, parts, rfl⟩ :=
      Checked.map_eq_ok.mp fields
    obtain ⟨nameOk, _⟩ := Checked.both_eq_ok.mp parts
    obtain ⟨nameDatum, nameChecked⟩ :=
      Validation.exists_of_required_eq_ok nameOk
    obtain ⟨isName, short⟩ := name_of_check nameChecked
    exact ⟨⟨name, rfl, isName, short⟩, fun select empty => chosen ⟨select, empty⟩⟩

/-- A valid definition stays valid when it is merged. -/
theorem IsValid.merged
    {definition : Definition}
    (valid : definition.IsValid) :
    definition.merged.IsValid := by
  obtain ⟨⟨name, same, isNamed⟩, hasChoices⟩ := valid
  refine ⟨⟨name, ?_, isNamed⟩, ?_⟩
  · show definition.name.merged = name
    rw [same, RawText.merged_raw]
  · intro select empty
    refine hasChoices select ?_
    unfold Definition.merged choices at empty
    unfold choices
    cases held : definition.options with
    | none =>
        rfl
    | some options =>
        rw [held] at empty
        exact List.map_eq_nil_iff.mp empty

theorem checkOptions_optionsJson
    (options : List RawText) :
    checkOptions (Datum.ofJson (optionsJson options)) = .ok (some options) := by
  have data :
      Datum.ofItems (options.map Json.string) = options.map Datum.string := by
    induction options with
    | nil =>
        rfl
    | cons option rest inductionHypothesis =>
        rw [List.map_cons, List.map_cons, Datum.ofItems, inductionHypothesis,
          Datum.ofJson]
  have items :
      Checked.items Validation.text (options.map Datum.string) = .ok options :=
    Checked.items_map fun option _ => rfl
  show (Checked.items Validation.text
    (Datum.ofItems (options.map Json.string))).map some = _
  rw [data, items]
  rfl

/-- A name of limited length is checked to be that name. -/
theorem name_check
    {limit : Nat}
    {name : Text}
    (isName : Validation.isName name = true)
    (short : name.length ≤ limit) :
    Validation.name limit (.string name) = .ok name := by
  have kept : Validation.shortText limit (.string name) = .ok name := by
    show (Validation.whole name).bind _ = _
    rw [Validation.whole_raw]
    exact if_neg (Nat.not_lt.mpr short)
  show (Validation.shortText limit (.string name)).bind _ = _
  rw [kept]
  exact if_pos isName

/-- The members of a written definition, as far as they are given. -/
def members (definition : Definition) : List (RawText × Json) :=
  definition.commonMembers ++
    (definition.defaultValue.map fun value =>
      (Text.raw "defaultValue".toList, value.toJson)).toList ++
    (definition.options.map fun options =>
      (Text.raw "options".toList, optionsJson options)).toList

/-- A written definition has its parts under their names and nothing else. -/
theorem members_find?
    (definition : Definition) :
    Entries.find? definition.members "name".toList =
        some (.string definition.name) ∧
      Entries.find? definition.members "type".toList =
        some (.string definition.kind.word) ∧
      Entries.find? definition.members "label".toList =
        some (.string definition.label) ∧
      Entries.find? definition.members "required".toList =
        some (.boolean definition.required) ∧
      Entries.find? definition.members "defaultValue".toList =
        definition.defaultValue.map DefaultValue.toJson ∧
      Entries.find? definition.members "default_value".toList = none ∧
      Entries.find? definition.members "options".toList =
        definition.options.map optionsJson := by
  obtain ⟨name, kind, label, required, defaultValue, options⟩ := definition
  cases defaultValue with
  | none =>
      cases options with
      | none =>
          exact ⟨rfl, rfl, rfl, rfl, rfl, rfl, rfl⟩
      | some options =>
          exact ⟨rfl, rfl, rfl, rfl, rfl, rfl, rfl⟩
  | some value =>
      cases options with
      | none =>
          exact ⟨rfl, rfl, rfl, rfl, rfl, rfl, rfl⟩
      | some options =>
          exact ⟨rfl, rfl, rfl, rfl, rfl, rfl, rfl⟩

/-- The members of a written default are checked to be the default, or that there is none. -/
theorem defaultValue_check
    (definition : Definition) :
    Validation.optional ["defaultValue".toList, "default_value".toList] none
        DefaultValue.check (Datum.ofMembers definition.members) =
      .ok definition.defaultValue := by
  obtain ⟨_, _, _, _, given, other, _⟩ := members_find? definition
  cases held : definition.defaultValue with
  | none =>
      rw [held] at given
      apply Validation.optional_ofMembers_missing
      intro name member
      rcases List.mem_cons.mp member with rfl | second
      · exact given
      · rw [List.mem_singleton.mp second]
        exact other
  | some value =>
      rw [held] at given
      exact Validation.optional_ofMembers none given _ value.check_toJson

/-- The members of written options are checked to be the options, or that there are none. -/
theorem options_check
    (definition : Definition) :
    Validation.optional ["options".toList] none checkOptions
        (Datum.ofMembers definition.members) =
      .ok definition.options := by
  obtain ⟨_, _, _, _, _, _, given⟩ := members_find? definition
  cases held : definition.options with
  | none =>
      rw [held] at given
      apply Validation.optional_ofMembers_missing
      intro name member
      rw [List.mem_singleton.mp member]
      exact given
  | some options =>
      rw [held] at given
      exact Validation.optional_ofMembers none given _
        (checkOptions_optionsJson options)

/-- The fields of a valid definition are checked to be the definition. -/
theorem IsValid.checkFields_members
    {definition : Definition}
    (valid : definition.IsValid) :
    checkFields (Datum.ofMembers definition.members) = .ok definition := by
  obtain ⟨⟨written, same, isName, short⟩, _⟩ := valid
  obtain ⟨name, kind, label, required, _, _, _⟩ := members_find? definition
  have nameChecked :
      Validation.name nameLimit (Datum.ofJson (.string definition.name)) =
        .ok written := by
    rw [same]
    exact name_check isName short
  have labelText :
      Validation.text (Datum.ofJson (.string definition.label)) =
        .ok definition.label :=
    rfl
  have requiredBoolean :
      Validation.boolean (Datum.ofJson (.boolean definition.required)) =
        .ok definition.required :=
    rfl
  unfold checkFields
  dsimp only
  rw [Validation.required_ofMembers name [] nameChecked,
    Validation.required_ofMembers kind [] definition.kind.check_word,
    Validation.required_ofMembers label [] labelText,
    Validation.optional_ofMembers false required [] requiredBoolean,
    defaultValue_check, options_check]
  show Except.ok { definition with name := written.raw } = _
  rw [← same]

/-- A valid definition that was written is checked to be the same definition. -/
theorem IsValid.check_toJson
    {definition : Definition}
    (valid : definition.IsValid) :
    check (Datum.ofJson definition.toJson) = .ok definition := by
  show (checkFields (Datum.ofMembers definition.members)).bind checkChoices = _
  rw [valid.checkFields_members]
  exact if_neg fun empty => valid.hasChoices empty.1 empty.2

/-- Valid definitions that were written are checked to be the same definitions. -/
theorem checkList_toJson
    {definitions : List Definition}
    (valid : ∀ definition ∈ definitions, definition.IsValid) :
    Checked.items check (Datum.ofItems (definitions.map toJson)) =
      .ok definitions := by
  have data :
      Datum.ofItems (definitions.map toJson) =
        definitions.map fun definition => Datum.ofJson definition.toJson := by
    clear valid
    induction definitions with
    | nil =>
        rfl
    | cons definition rest inductionHypothesis =>
        rw [List.map_cons, List.map_cons, Datum.ofItems, inductionHypothesis]
  rw [data]
  exact Checked.items_map fun definition member =>
    (valid definition member).check_toJson

/-- Whether the default of a definition can be written and read. -/
def HasWritableDefault (definition : Definition) : Prop :=
  ∀ value ∈ definition.defaultValue, Json.IsWritable value.toJson

theorem areWritableItems_strings
    (strings : List RawText) :
    Json.AreWritableItems (strings.map .string) := by
  induction strings with
  | nil =>
      exact trivial
  | cons raw rest inductionHypothesis =>
      exact ⟨trivial, inductionHypothesis⟩

/-- A member that need not be given has at most one name. -/
theorem optionalMember_sublist
    (name : RawText)
    (toJson : α → Json)
    (part : Option α) :
    ((part.map fun value => (name, toJson value)).toList.map Prod.fst).Sublist
      [name] := by
  cases part with
  | none =>
      exact List.nil_sublist _
  | some value =>
      exact List.Sublist.refl _

theorem members_distinct
    (definition : Definition) :
    (definition.members.map Prod.fst).Nodup := by
  have names :
      (definition.members.map Prod.fst).Sublist
        (["name", "type", "label", "required", "defaultValue", "options"].map
          fun name => Text.raw name.toList) := by
    unfold members
    rw [List.map_append, List.map_append]
    exact
      ((List.Sublist.refl (definition.commonMembers.map Prod.fst)).append
        (optionalMember_sublist _ _ _)).append (optionalMember_sublist _ _ _)
  exact names.nodup (by decide)

theorem mergedItems_strings
    (strings : List RawText) :
    Json.mergedItems (strings.map .string) =
      (strings.map RawText.merged).map .string := by
  induction strings with
  | nil =>
      rfl
  | cons raw rest inductionHypothesis =>
      exact congrArg (_ :: ·) inductionHypothesis

/-- The members of a definition, merged, are those of the definition merged. -/
theorem mergedMembers_members
    (definition : Definition) :
    Json.mergedMembers definition.members = definition.merged.members := by
  obtain ⟨name, kind, label, required, defaultValue, options⟩ := definition
  cases defaultValue <;>
    cases options <;>
      simp [members, merged, commonMembers, Json.mergedMembers, Json.merged,
        DefaultValue.toJson_merged, optionsJson, mergedItems_strings]

theorem toJson_merged
    (definition : Definition) :
    definition.toJson.merged = definition.merged.toJson :=
  congrArg Json.object definition.mergedMembers_members

/-- A definition with a writable default can be written as a whole. -/
theorem isWritable_toJson
    {definition : Definition}
    (writable : definition.HasWritableDefault) :
    Json.IsWritable definition.toJson := by
  refine ⟨?_, ?_⟩
  · show ((Json.mergedMembers definition.members).map Prod.fst).Nodup
    rw [mergedMembers_members]
    exact definition.merged.members_distinct
  obtain ⟨name, kind, label, required, defaultValue, options⟩ := definition
  cases defaultValue with
  | none =>
      cases options with
      | none =>
          exact ⟨trivial, trivial, trivial, trivial, trivial⟩
      | some options =>
          exact ⟨trivial, trivial, trivial, trivial,
            areWritableItems_strings options, trivial⟩
  | some value =>
      have held : Json.IsWritable value.toJson :=
        writable value rfl
      cases options with
      | none =>
          exact ⟨trivial, trivial, trivial, trivial, held, trivial⟩
      | some options =>
          exact ⟨trivial, trivial, trivial, trivial, held,
            areWritableItems_strings options, trivial⟩

end Definition

end ContractTemplates
