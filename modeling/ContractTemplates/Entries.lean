namespace ContractTemplates.Entries

/-!
# Entries in the order of their arrival

A mapping is a list of keys with values in which no key occurs twice. A new key
goes to the end; a key that is already there keeps its place and takes the new
value. The rule for telling keys apart is a parameter, because some mappings
count a number and a truth value as one key.
-/

/-- Puts a value under a key, in the place of the key if it is there already. -/
def putBy
    (same : α → α → Bool)
    (key : α)
    (value : β) :
    List (α × β) → List (α × β)
  | [] => [(key, value)]
  | (other, held) :: rest =>
      if same other key then
        (other, value) :: rest
      else
        (other, held) :: putBy same key value rest

/-- The mapping that arises from putting the pairs one after the other. -/
def collectBy (same : α → α → Bool) (pairs : List (α × β)) : List (α × β) :=
  pairs.foldl (fun entries pair => putBy same pair.1 pair.2 entries) []

/-- Puts a value under a key. -/
def put [DecidableEq α] (key : α) (value : β) (entries : List (α × β)) :
    List (α × β) :=
  putBy (fun a b => decide (a = b)) key value entries

/-- The mapping of pairs of which the last with a key counts. -/
def collect [DecidableEq α] (pairs : List (α × β)) : List (α × β) :=
  pairs.foldl (fun entries pair => put pair.1 pair.2 entries) []

/-- The value under a key. -/
def find? [DecidableEq α] (entries : List (α × β)) (key : α) : Option β :=
  entries.lookup key

/-- Takes a key and its value away. -/
def erase [DecidableEq α] (key : α) (entries : List (α × β)) : List (α × β) :=
  entries.filter fun entry => decide (entry.1 ≠ key)

/-- A value that was put is found again. -/
theorem find?_put_self
    [DecidableEq α]
    (key : α)
    (value : β)
    (entries : List (α × β)) :
    find? (put key value entries) key = some value := by
  unfold find? put
  induction entries with
  | nil =>
      simp [putBy]
  | cons entry rest inductionHypothesis =>
      rcases entry with ⟨other, held⟩
      by_cases same : other = key
      · simp [putBy, same]
      · have different : ¬ (key == other) = true := by
          simpa using fun equal => same equal.symm
        simp [putBy, same, different, List.lookup_cons, inductionHypothesis]

/-- Putting a value under one key changes no other key. -/
theorem find?_put_other
    [DecidableEq α]
    {key query : α}
    (different : query ≠ key)
    (value : β)
    (entries : List (α × β)) :
    find? (put key value entries) query = find? entries query := by
  unfold find? put
  have unequal : (query == key) = false := by
    simpa using different
  induction entries with
  | nil =>
      simp [putBy, List.lookup_cons, unequal]
  | cons entry rest inductionHypothesis =>
      rcases entry with ⟨other, held⟩
      by_cases same : other = key
      · subst same
        simp [putBy, List.lookup_cons, unequal]
      · cases asked : query == other <;>
          simp [putBy, same, List.lookup_cons, asked, inductionHypothesis]

/-- Nothing is under a key that was taken away. -/
theorem find?_erase_self
    [DecidableEq α]
    (key : α)
    (entries : List (α × β)) :
    find? (erase key entries) key = none := by
  unfold find? erase
  induction entries with
  | nil =>
      rfl
  | cons entry rest inductionHypothesis =>
      rcases entry with ⟨other, held⟩
      by_cases same : other = key
      · simpa [same] using inductionHypothesis
      · have different : (key == other) = false := by
          simpa using fun equal => same equal.symm
        simpa [same, List.lookup_cons, different] using inductionHypothesis

/-- Taking one key away changes no other key. -/
theorem find?_erase_other
    [DecidableEq α]
    {key query : α}
    (different : query ≠ key)
    (entries : List (α × β)) :
    find? (erase key entries) query = find? entries query := by
  unfold find? erase
  induction entries with
  | nil =>
      rfl
  | cons entry rest inductionHypothesis =>
      rcases entry with ⟨other, held⟩
      by_cases same : other = key
      · subst same
        have unequal : (query == other) = false := by
          simpa using different
        simpa [List.lookup_cons, unequal] using inductionHypothesis
      · cases asked : query == other with
        | true =>
            simp [same, List.lookup_cons, asked]
        | false =>
            simpa [same, List.lookup_cons, asked] using inductionHypothesis

end ContractTemplates.Entries
