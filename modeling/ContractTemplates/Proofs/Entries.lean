import ContractTemplates.Entries

namespace ContractTemplates.Entries

/-!
# Entries with distinct keys

Entries whose keys are pairwise distinct already are a mapping: collecting them
one after the other gives the same entries in the same order.
-/

/-- A new key goes to the end. -/
theorem put_of_find?_eq_none
    [DecidableEq α]
    {key : α}
    {entries : List (α × β)}
    (absent : find? entries key = none)
    (value : β) :
    put key value entries = entries ++ [(key, value)] := by
  unfold find? at absent
  unfold put
  induction entries with
  | nil =>
      rfl
  | cons entry rest inductionHypothesis =>
      obtain ⟨other, held⟩ := entry
      cases asked : key == other with
      | true =>
          simp [List.lookup_cons, asked] at absent
      | false =>
          have different : other ≠ key := by
            simpa using fun same : other = key =>
              (by simpa using asked : key ≠ other) same.symm
          simp only [List.lookup_cons, asked] at absent
          simp [putBy, different, inductionHypothesis absent]

/-- What is said of keys alone does not see what was put under a key of which it is not said. -/
theorem filter_put
    [DecidableEq α]
    (concerns : α → Bool)
    {key : α}
    (unconcerned : concerns key = false)
    (value : β)
    (entries : List (α × β)) :
    (put key value entries).filter (fun entry => concerns entry.1) =
      entries.filter fun entry => concerns entry.1 := by
  unfold put
  induction entries with
  | nil =>
      simp [putBy, unconcerned]
  | cons entry rest inductionHypothesis =>
      obtain ⟨other, held⟩ := entry
      by_cases same : other = key
      · simp [putBy, same, unconcerned]
      · simp [putBy, same, List.filter_cons, inductionHypothesis]

theorem find?_cons
    [DecidableEq α]
    (key other : α)
    (value : β)
    (rest : List (α × β)) :
    find? ((other, value) :: rest) key =
      if key = other then some value else find? rest key := by
  unfold find?
  rw [List.lookup_cons]
  by_cases same : key = other
  · rw [if_pos same, beq_iff_eq.mpr same]
  · rw [if_neg same, beq_false_of_ne same]

theorem find?_eq_none_of_not_mem
    [DecidableEq α]
    {key : α}
    {entries : List (α × β)}
    (absent : key ∉ entries.map Prod.fst) :
    find? entries key = none := by
  unfold find?
  rw [List.lookup_eq_none_iff]
  intro entry member
  apply bne_iff_ne.mpr
  rintro rfl
  exact absent (List.mem_map_of_mem member)

/-- Where keys are distinct, a value is found under a key exactly if it is there. -/
theorem find?_eq_some_iff
    [DecidableEq α]
    {entries : List (α × β)}
    (distinct : (entries.map Prod.fst).Nodup)
    {key : α}
    {value : β} :
    find? entries key = some value ↔ (key, value) ∈ entries := by
  induction entries with
  | nil =>
      exact iff_of_false nofun List.not_mem_nil
  | cons entry rest inductionHypothesis =>
      obtain ⟨other, held⟩ := entry
      obtain ⟨fresh, later⟩ := List.nodup_cons.mp distinct
      rw [find?_cons, List.mem_cons, Prod.mk.injEq]
      by_cases same : key = other
      · subst same
        have absent : (key, value) ∉ rest :=
          fun member => fresh (List.mem_map.mpr ⟨_, member, rfl⟩)
        simp [absent, eq_comm]
      · rw [if_neg same, inductionHypothesis later]
        simp [same]

/-- Where keys are distinct, the order of the entries does not matter to look-up. -/
theorem find?_perm
    [DecidableEq α]
    {entries others : List (α × β)}
    (perm : entries.Perm others)
    (distinct : (entries.map Prod.fst).Nodup)
    (key : α) :
    find? entries key = find? others key := by
  have otherDistinct : (others.map Prod.fst).Nodup :=
    (perm.map Prod.fst).nodup distinct
  ext value
  rw [find?_eq_some_iff distinct, find?_eq_some_iff otherDistinct, perm.mem_iff]

/-- Entries with new and distinct keys are collected behind those collected before. -/
theorem foldl_put_of_nodup
    [DecidableEq α]
    (before entries : List (α × β))
    (distinct : ((before ++ entries).map Prod.fst).Nodup) :
    entries.foldl (fun collected pair => put pair.1 pair.2 collected) before =
      before ++ entries := by
  induction entries generalizing before with
  | nil =>
      rw [List.append_nil]
      rfl
  | cons entry rest inductionHypothesis =>
      have absent : entry.1 ∉ before.map Prod.fst := by
        rw [List.map_append, List.map_cons] at distinct
        intro present
        exact (List.nodup_append.mp distinct).2.2 _ present _
          List.mem_cons_self rfl
      have moved : before ++ entry :: rest = before ++ [entry] ++ rest := by
        rw [List.append_assoc]
        rfl
      rw [moved] at distinct ⊢
      rw [List.foldl_cons, put_of_find?_eq_none (find?_eq_none_of_not_mem absent)]
      exact inductionHypothesis _ distinct

/-- Collecting entries with distinct keys changes nothing. -/
theorem collect_of_nodup
    [DecidableEq α]
    {entries : List (α × β)}
    (distinct : (entries.map Prod.fst).Nodup) :
    collect entries = entries :=
  foldl_put_of_nodup [] entries distinct

end ContractTemplates.Entries
