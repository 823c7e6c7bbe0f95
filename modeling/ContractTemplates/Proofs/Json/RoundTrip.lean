import ContractTemplates.Proofs.Entries
import ContractTemplates.Proofs.Json.Numeral
import ContractTemplates.Proofs.Json.Quoted

namespace ContractTemplates.Json

/-!
# Reading what was written

`read_write` says that the text of a value is read as that value with its strings
merged. The value has to be one that can be written: its integers have no more digits
than may be read, and the names of an object are distinct once merged. The proof
follows the value; the depth that the reader may go to is measured by the length of
the text. Merging is all that is lost: a value and the same value merged are written
alike (`write_merged`).
-/

mutual

/-- The value with all its strings merged. -/
def merged : Json → Json
  | .string value => .string value.merged
  | .array items => .array (mergedItems items)
  | .object members => .object (mergedMembers members)
  | value => value

/-- The items with all their strings merged. -/
def mergedItems : List Json → List Json
  | [] => []
  | item :: rest => merged item :: mergedItems rest

/-- The members with their names and all their strings merged. -/
def mergedMembers : List (RawText × Json) → List (RawText × Json)
  | [] => []
  | (name, value) :: rest => (name.merged, merged value) :: mergedMembers rest

end

mutual

/-- Whether the text of a value is read as the value merged. -/
def IsWritable : Json → Prop
  | .number value => IsWritableNumber value
  | .array items => AreWritableItems items
  | .object members =>
      ((mergedMembers members).map Prod.fst).Nodup ∧ AreWritableMembers members
  | _ => True

/-- Whether all items of an array can be written. -/
def AreWritableItems : List Json → Prop
  | [] => True
  | item :: rest => IsWritable item ∧ AreWritableItems rest

/-- Whether all members of an object can be written. -/
def AreWritableMembers : List (RawText × Json) → Prop
  | [] => True
  | (_, value) :: rest => IsWritable value ∧ AreWritableMembers rest

end

/-- Whether a character may begin a value: it is no blank and closes nothing. -/
def IsStart (c : Char) : Prop :=
  isGap c = false ∧ c ≠ ']' ∧ c ≠ '}'

theorem isStart_of_isDigit
    {c : Char}
    (digit : c.isDigit = true) :
    IsStart c := by
  have different (other : Char) (noDigit : other.isDigit = false) : c ≠ other := by
    rintro rfl
    rw [digit] at noDigit
    exact Bool.noConfusion noDigit
  refine ⟨?_, different ']' (by decide), different '}' (by decide)⟩
  unfold isGap
  simp only [Bool.or_eq_false_iff, decide_eq_false_iff_not]
  exact ⟨⟨⟨different ' ' (by decide), different '\t' (by decide)⟩,
    different '\n' (by decide)⟩, different '\r' (by decide)⟩

theorem signed_starts
    {body : Text}
    (negative : Bool)
    (begins : ∃ c later, body = c :: later ∧ c.isDigit = true) :
    ∃ c later, Binary64.signed negative body = c :: later ∧ IsStart c := by
  obtain ⟨c, later, shape, digit⟩ := begins
  cases negative with
  | true =>
      exact ⟨'-', body, rfl, by decide, by decide, by decide⟩
  | false =>
      exact ⟨c, later, shape, isStart_of_isDigit digit⟩

theorem numeral_starts
    (number : Number) :
    ∃ c later, numeral number = c :: later ∧ IsStart c := by
  match number with
  | .integer value =>
      have allDigits := Text.isDigit_toDigits value.natAbs
      have begins :
          ∃ c later, Nat.toDigits 10 value.natAbs = c :: later ∧
            c.isDigit = true := by
        cases digits : Nat.toDigits 10 value.natAbs with
        | nil =>
            exact absurd digits Nat.toDigits_ne_nil
        | cons c later =>
            rw [digits] at allDigits
            exact ⟨c, later, rfl, allDigits c List.mem_cons_self⟩
      show ∃ c later, Text.ofInt value = c :: later ∧ IsStart c
      rw [ofInt_eq_signed]
      exact signed_starts _ begins
  | .double (.finite x) =>
      obtain ⟨parts, written, fractional, _⟩ := Binary64.finite_text x
      show ∃ c later, (Binary64.finite x).text = c :: later ∧ IsStart c
      rw [written]
      exact signed_starts _ fractional.text_eq_cons
  | .double (.infinite false) =>
      exact ⟨'I', _, rfl, by decide, by decide, by decide⟩
  | .double (.infinite true) =>
      exact ⟨'-', _, rfl, by decide, by decide, by decide⟩
  | .double .notANumber =>
      exact ⟨'N', _, rfl, by decide, by decide, by decide⟩

/-- A written value begins with a character that may begin a value. -/
theorem write_starts
    (value : Json) :
    ∃ c later, write value = c :: later ∧ IsStart c := by
  match value with
  | .null =>
      exact ⟨'n', _, rfl, by decide, by decide, by decide⟩
  | .boolean true =>
      exact ⟨'t', _, rfl, by decide, by decide, by decide⟩
  | .boolean false =>
      exact ⟨'f', _, rfl, by decide, by decide, by decide⟩
  | .number held =>
      exact numeral_starts held
  | .string _ =>
      exact ⟨'"', _, rfl, by decide, by decide, by decide⟩
  | .array _ =>
      exact ⟨'[', _, rfl, by decide, by decide, by decide⟩
  | .object _ =>
      exact ⟨'\x7b', _, rfl, by decide, by decide, by decide⟩

/-- What begins with a character that may begin a value has no gap before it. -/
theorem skipGap_of_starts
    {text : Text}
    (begins : ∃ c later, text = c :: later ∧ IsStart c)
    (rest : Text) :
    skipGap (text ++ rest) = text ++ rest := by
  obtain ⟨c, later, rfl, start⟩ := begins
  have stops : ¬ isGap c = true := by
    rw [start.1]
    exact Bool.false_ne_true
  exact List.dropWhile_cons_of_neg stops

theorem writeItems_starts
    (item : Json)
    (items : List Json) :
    ∃ c later, writeItems (item :: items) = c :: later ∧ IsStart c := by
  obtain ⟨c, later, shape, start⟩ := write_starts item
  cases items with
  | nil =>
      exact ⟨c, later, shape, start⟩
  | cons next rest =>
      refine ⟨c, later ++ ',' :: ' ' :: writeItems (next :: rest), ?_, start⟩
      show write item ++ _ = _
      rw [shape]
      rfl

/-- An item before a bracket is the last one. -/
theorem readItems_last
    {fuel : Nat}
    {item : Json}
    {text rest : Text}
    (first : readValue fuel text = .ok (item, ']' :: rest)) :
    readItems (fuel + 1) text = .ok ([item], rest) := by
  unfold readItems
  rw [first]
  rfl

/-- After an item and a comma come the other items. -/
theorem readItems_more
    {fuel : Nat}
    {item : Json}
    {items : List Json}
    {text more rest : Text}
    (first : readValue fuel text = .ok (item, ',' :: ' ' :: more))
    (noGap : skipGap more = more)
    (others : readItems fuel more = .ok (items, rest)) :
    readItems (fuel + 1) text = .ok (item :: items, rest) := by
  have afterComma : skipGap (' ' :: more) = more :=
    noGap
  unfold readItems
  rw [first]
  show (readItems fuel (skipGap (' ' :: more))).bind _ = _
  rw [afterComma, others]
  rfl

/-- An array is read as its items. -/
theorem readValue_array
    {fuel : Nat}
    {items : List Json}
    {text rest : Text}
    (begins : ∃ c later, text = c :: later ∧ IsStart c)
    (read : readItems fuel text = .ok (items, rest)) :
    readValue (fuel + 1) ('[' :: text) = .ok (.array items, rest) := by
  have noGap := skipGap_of_starts begins []
  rw [List.append_nil] at noGap
  obtain ⟨c, later, rfl, start⟩ := begins
  simp only [readValue, noGap]
  split
  next shape =>
    exact absurd (List.cons.inj shape).1 start.2.1
  next =>
    rw [read]
    rfl

theorem readValue_string
    (fuel : Nat)
    (raw : RawText)
    (rest : Text) :
    readValue (fuel + 1) (quoted raw ++ rest) = .ok (.string raw.merged, rest) := by
  unfold quoted
  rw [List.cons_append, List.cons_append, List.append_assoc,
    List.singleton_append]
  simp only [readValue, readQuoted_escaped]
  rfl

theorem readMembers_last
    {fuel : Nat}
    {value : Json}
    {text rest : Text}
    (name : RawText)
    (noGap : skipGap text = text)
    (first : readValue fuel text = .ok (value, '\x7d' :: rest)) :
    readMembers (fuel + 1) (quoted name ++ ':' :: ' ' :: text) =
      .ok ([(name.merged, value)], rest) := by
  have afterColon : skipGap (' ' :: text) = text :=
    noGap
  unfold quoted
  rw [List.cons_append, List.cons_append, List.append_assoc,
    List.singleton_append]
  unfold readMembers
  simp only [readQuoted_escaped]
  show (readValue fuel (skipGap (' ' :: text))).bind _ = _
  rw [afterColon, first]
  rfl

theorem readMembers_more
    {fuel : Nat}
    {value : Json}
    {members : List (RawText × Json)}
    {text more rest : Text}
    (name : RawText)
    (noGap : skipGap text = text)
    (first : readValue fuel text = .ok (value, ',' :: ' ' :: more))
    (noGapMore : skipGap more = more)
    (others : readMembers fuel more = .ok (members, rest)) :
    readMembers (fuel + 1) (quoted name ++ ':' :: ' ' :: text) =
      .ok ((name.merged, value) :: members, rest) := by
  have afterColon : skipGap (' ' :: text) = text :=
    noGap
  have afterComma : skipGap (' ' :: more) = more :=
    noGapMore
  unfold quoted
  rw [List.cons_append, List.cons_append, List.append_assoc,
    List.singleton_append]
  unfold readMembers
  simp only [readQuoted_escaped]
  show (readValue fuel (skipGap (' ' :: text))).bind _ = _
  rw [afterColon, first]
  show (readMembers fuel (skipGap (' ' :: more))).bind _ = _
  rw [afterComma, others]
  rfl

/-- An object is read as its members. -/
theorem readValue_object
    {fuel : Nat}
    {members : List (RawText × Json)}
    {text rest : Text}
    (begins : ∃ c later, text = c :: later ∧ IsStart c)
    (distinct : (members.map Prod.fst).Nodup)
    (read : readMembers fuel text = .ok (members, rest)) :
    readValue (fuel + 1) ('\x7b' :: text) = .ok (.object members, rest) := by
  have noGap := skipGap_of_starts begins []
  rw [List.append_nil] at noGap
  obtain ⟨c, later, rfl, start⟩ := begins
  simp only [readValue, noGap]
  split
  next shape =>
    exact absurd (List.cons.inj shape).1 start.2.2
  next =>
    rw [read]
    show Except.ok (object (Entries.collect members), rest) = _
    rw [Entries.collect_of_nodup distinct]

theorem writeMembers_starts
    (name : RawText)
    (value : Json)
    (members : List (RawText × Json)) :
    ∃ later, writeMembers ((name, value) :: members) = '"' :: later := by
  cases members with
  | nil =>
      exact ⟨_, rfl⟩
  | cons next rest =>
      exact ⟨_, rfl⟩

mutual

/-- A written value is read back, whatever mark follows it. -/
theorem readValue_write
    (value : Json)
    (fuel : Nat)
    (rest : Text)
    (writable : IsWritable value)
    (boundary : IsBoundary rest)
    (deep : 2 * (write value).length < fuel) :
    readValue fuel (write value ++ rest) = .ok (merged value, rest) := by
  -- The induction is on the fuel. A call for a list of items or members spends one
  -- more of it without a character of its own, which twice the length makes up for.
  cases fuel with
  | zero =>
      omega
  | succ less =>
      match value with
      | .null =>
          rfl
      | .boolean true =>
          rfl
      | .boolean false =>
          rfl
      | .number held =>
          exact readValue_numeral less writable boundary
      | .string text =>
          exact readValue_string less text rest
      | .array [] =>
          rfl
      | .array (item :: items) =>
          have length : 2 * (writeItems (item :: items)).length + 1 < less := by
            simp only [write, List.length_append, List.length_cons,
              List.length_nil] at deep
            omega
          have itemsRead :=
            readItems_writeItems item items less rest writable length
          obtain ⟨c, later, shape, start⟩ := writeItems_starts item items
          simp only [write, List.cons_append, List.append_assoc]
          exact readValue_array ⟨c, later ++ ']' :: rest, by rw [shape]; rfl, start⟩
            itemsRead
      | .object [] =>
          rfl
      | .object ((name, held) :: members) =>
          have length :
              2 * (writeMembers ((name, held) :: members)).length + 1 < less := by
            simp only [write, List.length_append, List.length_cons,
              List.length_nil] at deep
            omega
          have membersRead :=
            readMembers_writeMembers name held members less rest writable.2 length
          obtain ⟨later, shape⟩ := writeMembers_starts name held members
          simp only [write, List.cons_append, List.append_assoc]
          exact readValue_object
            ⟨'"', later ++ '\x7d' :: rest, by rw [shape]; rfl, by decide, by decide,
              by decide⟩
            writable.1 membersRead
termination_by fuel

/-- Written items are read back up to the bracket after them. -/
theorem readItems_writeItems
    (item : Json)
    (items : List Json)
    (fuel : Nat)
    (rest : Text)
    (writable : AreWritableItems (item :: items))
    (deep : 2 * (writeItems (item :: items)).length + 1 < fuel) :
    readItems fuel (writeItems (item :: items) ++ ']' :: rest) =
      .ok (mergedItems (item :: items), rest) := by
  cases fuel with
  | zero =>
      omega
  | succ less =>
      match items with
      | [] =>
          have first :=
            readValue_write item less (']' :: rest) writable.1
              (isBoundary_bracket rest) (by simpa [writeItems] using deep)
          exact readItems_last first
      | next :: others =>
          have length :
              2 * (write item).length < less ∧
                2 * (writeItems (next :: others)).length + 1 < less := by
            simp only [writeItems, List.length_append, List.length_cons] at deep
            omega
          have first :=
            readValue_write item less
              (',' :: ' ' :: (writeItems (next :: others) ++ ']' :: rest))
              writable.1 (isBoundary_comma _) length.1
          have more :=
            readItems_writeItems next others less rest writable.2 length.2
          have noGap := skipGap_of_starts (writeItems_starts next others) (']' :: rest)
          show readItems (less + 1)
            (write item ++ ',' :: ' ' :: writeItems (next :: others) ++ ']' :: rest) = _
          rw [List.append_assoc]
          exact readItems_more first noGap more
termination_by fuel

/-- Written members are read back up to the brace after them. -/
theorem readMembers_writeMembers
    (name : RawText)
    (value : Json)
    (members : List (RawText × Json))
    (fuel : Nat)
    (rest : Text)
    (writable : AreWritableMembers ((name, value) :: members))
    (deep : 2 * (writeMembers ((name, value) :: members)).length + 1 < fuel) :
    readMembers fuel (writeMembers ((name, value) :: members) ++ '\x7d' :: rest) =
      .ok (mergedMembers ((name, value) :: members), rest) := by
  cases fuel with
  | zero =>
      omega
  | succ less =>
      match members with
      | [] =>
          have length : 2 * (write value).length < less := by
            simp only [writeMembers, List.length_append, List.length_cons] at deep
            omega
          have first :=
            readValue_write value less ('\x7d' :: rest) writable.1
              (isBoundary_brace rest) length
          have noGap := skipGap_of_starts (write_starts value) ('\x7d' :: rest)
          show readMembers (less + 1)
            (quoted name ++ ':' :: ' ' :: write value ++ '\x7d' :: rest) = _
          rw [List.append_assoc]
          exact readMembers_last name noGap first
      | (nextName, next) :: others =>
          have length :
              2 * (write value).length < less ∧
                2 * (writeMembers ((nextName, next) :: others)).length + 1 < less := by
            simp only [writeMembers, List.length_append, List.length_cons] at deep ⊢
            omega
          have first :=
            readValue_write value less
              (',' :: ' ' ::
                (writeMembers ((nextName, next) :: others) ++ '\x7d' :: rest))
              writable.1 (isBoundary_comma _) length.1
          have more :=
            readMembers_writeMembers nextName next others less rest writable.2
              length.2
          obtain ⟨later, shape⟩ := writeMembers_starts nextName next others
          have noGapMore :=
            skipGap_of_starts ⟨'"', later, shape, by decide, by decide, by decide⟩
              ('\x7d' :: rest)
          have noGap :=
            skipGap_of_starts (write_starts value)
              (',' :: ' ' ::
                (writeMembers ((nextName, next) :: others) ++ '\x7d' :: rest))
          show readMembers (less + 1)
            (quoted name ++ ':' :: ' ' :: write value ++
              ',' :: ' ' :: writeMembers ((nextName, next) :: others) ++
              '\x7d' :: rest) = _
          simp only [List.append_assoc, List.cons_append]
          exact readMembers_more name noGap first noGapMore more
termination_by fuel

end

/-- A text is read as the value that was written, merged. -/
theorem read_write
    {value : Json}
    (writable : IsWritable value) :
    read (write value) = .ok (merged value) := by
  have whole :=
    readValue_write value (2 * (write value).length + 2) [] writable
      isBoundary_nil (by omega)
  have noGap := skipGap_of_starts (write_starts value) []
  rw [List.append_nil] at whole noGap
  unfold read
  rw [noGap, whole]
  rfl

mutual

/-- A value is written like the same value merged. -/
theorem write_merged
    (value : Json) :
    write (merged value) = write value := by
  match value with
  | .null | .boolean _ | .number _ =>
      rfl
  | .string raw =>
      simp only [merged, write, quoted_merged]
  | .array items =>
      simp only [merged, write, writeItems_merged items]
  | .object members =>
      simp only [merged, write, writeMembers_merged members]

/-- Items are written like the same items merged. -/
theorem writeItems_merged
    (items : List Json) :
    writeItems (mergedItems items) = writeItems items := by
  match items with
  | [] =>
      rfl
  | [item] =>
      simp only [mergedItems, writeItems, write_merged item]
  | item :: next :: rest =>
      have others := writeItems_merged (next :: rest)
      simp only [mergedItems] at others
      simp only [mergedItems, writeItems, write_merged item, others]

/-- Members are written like the same members merged. -/
theorem writeMembers_merged
    (members : List (RawText × Json)) :
    writeMembers (mergedMembers members) = writeMembers members := by
  match members with
  | [] =>
      rfl
  | [(name, value)] =>
      simp only [mergedMembers, writeMembers, quoted_merged, write_merged value]
  | (name, value) :: (nextName, next) :: rest =>
      have others := writeMembers_merged ((nextName, next) :: rest)
      simp only [mergedMembers] at others
      simp only [mergedMembers, writeMembers, quoted_merged, write_merged value,
        others]

end

end ContractTemplates.Json
