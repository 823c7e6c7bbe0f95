import ContractTemplates.Proofs.Service.CompileRoute

namespace ContractTemplates

/-!
# The route to a single template

The place of a template is the base with its id after it. The catalogue has a place
there too, for an empty id and for a line feed, and it comes first. An id with a slash
is more than one name, and no place below the base that can be read has more than one.
-/

namespace Route

/-- Whether an id after the base is a place of its own. -/
structure IsAddressable (id : Text) : Prop where
  nonempty : id ≠ []
  noLineFeed : id ≠ ['\n']
  segment : '/' ∉ id

variable
  {id : Text}

/-- An id that is not addressable makes up no name, or more than one. -/
theorem not_isAddressable_iff :
    ¬ IsAddressable id ↔ (id = [] ∨ id = ['\n']) ∨ '/' ∈ id := by
  constructor
  · intro unreachable
    by_cases slash : '/' ∈ id
    · exact Or.inr slash
    · by_cases empty : id = []
      · exact Or.inl (Or.inl empty)
      · exact Or.inl (Or.inr (Decidable.byContradiction fun named =>
          unreachable ⟨empty, named, slash⟩))
  · rintro ((empty | lineFeed) | slash) addressable
    · exact addressable.nonempty empty
    · exact addressable.noLineFeed lineFeed
    · exact addressable.segment slash

theorem toTemplate?_of_segment
    (nonempty : id ≠ [])
    (segment : '/' ∉ id) :
    toTemplate? id = some (.detail id) := by
  unfold toTemplate?
  rw [Text.cut_eq_self segment]
  cases id with
  | nil =>
      exact absurd rfl nonempty
  | cons c rest =>
      rfl

/-- Only a request to compile leads to a template behind a slash. -/
theorem method_of_toTemplate?
    {route : Route}
    (slash : '/' ∈ id)
    (found : toTemplate? id = some route) :
    route.method = .post := by
  obtain ⟨before, later, rfl, unmarked⟩ := List.eq_append_cons_of_mem slash
  unfold toTemplate? at found
  rw [Text.cut_append unmarked] at found
  cases before with
  | nil =>
      cases found
  | cons c rest =>
      dsimp only at found
      split at found
      · cases found
        rfl
      · cases found

/-- Below the base no place with a slash can be read. -/
theorem method_of_mem_below
    {route : Route}
    (slash : '/' ∈ id)
    (member : route ∈ below id) :
    route.method = .post := by
  rw [below_of_slash slash] at member
  exact method_of_toTemplate? slash (Option.mem_toList.mp member)

/-- The route of an addressable id to read is that of its template. -/
theorem find?_below
    (addressable : IsAddressable id) :
    (below id).find? (fun route => route.method = .get) = some (.detail id) := by
  have notCatalogue : isFixed [] id = false := by
    apply Bool.eq_false_iff.mpr
    intro fixed
    rcases eq_of_isFixed fixed with empty | lineFeed
    · exact addressable.nonempty empty
    · exact addressable.noLineFeed lineFeed
  unfold below
  rw [notCatalogue,
    toTemplate?_of_segment addressable.nonempty addressable.segment]
  cases isFixed "sync".toList id <;>
    rfl

end Route

namespace Routing

variable
  {id : Text}

/-- A request to read at the place of an addressable id is sent to its template. -/
theorem find_detail
    (addressable : Route.IsAddressable id) :
    find .get (Route.base ++ id) = .to (.detail id) := by
  have search := Route.find?_below addressable
  unfold find
  rw [Route.ofPath_base]
  split
  next none =>
    rw [none] at search
    cases search
  next =>
    rw [search]

/-- Where the id makes up no name, the catalogue is read. -/
theorem find_catalogue
    (unnamed : id = [] ∨ id = ['\n']) :
    find .get (Route.base ++ id) = .to .catalogue := by
  rcases unnamed with rfl | rfl <;>
    decide

/-- A place behind a slash cannot be read. -/
theorem find_ne_to
    (slash : '/' ∈ id)
    (route : Route) :
    find .get (Route.base ++ id) ≠ .to route := by
  intro found
  have member := mem_ofPath_of_find found
  rw [Route.ofPath_base] at member
  have reads := method_of_find found
  rw [Route.method_of_mem_below slash member] at reads
  cases reads

end Routing

end ContractTemplates
