import ContractTemplates.Proofs.Text.Prefix
import ContractTemplates.Service.Route

namespace ContractTemplates

/-!
# The route to compile a template

Below the base an id, a slash and the word `compile` lead to that template and
nowhere else: no other route has a slash in its path, and an id has none.
-/

namespace Route

/-- A fixed text is matched by itself alone, but for a line feed after it. -/
theorem eq_of_isFixed
    {word rest : Text}
    (fixed : isFixed word rest = true) :
    rest = word ∨ rest = word ++ ['\n'] := by
  unfold isFixed at fixed
  cases found : Text.after? word rest with
  | none =>
      rw [found] at fixed
      cases fixed
  | some later =>
      have shape := Text.eq_append_of_after? found
      rw [found] at fixed
      rcases Bool.or_eq_true_iff.mp fixed with none | feed
      · rw [of_decide_eq_true none, List.append_nil] at shape
        exact Or.inl shape
      · rw [of_decide_eq_true feed] at shape
        exact Or.inr shape

theorem isFixed_eq_false_of_slash
    {word rest : Text}
    (plain : '/' ∉ word)
    (slash : '/' ∈ rest) :
    isFixed word rest = false := by
  apply Bool.eq_false_iff.mpr
  intro fixed
  rcases eq_of_isFixed fixed with rfl | rfl
  · exact plain slash
  · rcases List.mem_append.mp slash with before | feed
    · exact plain before
    · cases List.mem_singleton.mp feed

/-- The state of the service is not below the base. -/
theorem ofPath_base
    (rest : Text) :
    ofPath (base ++ rest) = below rest := by
  have notHealth : isFixed "/health".toList (base ++ rest) = false :=
    rfl
  unfold ofPath
  rw [notHealth, Text.after?_append]
  simp

/-- Behind a slash there are only places of templates. -/
theorem below_of_slash
    {rest : Text}
    (slash : '/' ∈ rest) :
    below rest = (toTemplate? rest).toList := by
  have notCatalogue : isFixed [] rest = false :=
    isFixed_eq_false_of_slash List.not_mem_nil slash
  have notInSync : '/' ∉ "sync".toList := by
    decide
  have notSync := isFixed_eq_false_of_slash notInSync slash
  unfold below
  rw [notCatalogue, notSync]
  rfl

/-- What the path to compile a template has after its id. -/
def compileWord : Text :=
  "compile".toList

/-- The path to compile a template leads to that template alone. -/
theorem below_compile
    {id : Text}
    (nonempty : id ≠ [])
    (segment : '/' ∉ id) :
    below (id ++ '/' :: compileWord) = [.compile id] := by
  have slash : '/' ∈ id ++ '/' :: compileWord :=
    List.mem_append_right _ List.mem_cons_self
  have toTemplate : toTemplate? (id ++ '/' :: compileWord) = some (.compile id) := by
    unfold toTemplate?
    rw [Text.cut_append segment]
    cases id with
    | nil =>
        exact absurd rfl nonempty
    | cons c rest =>
        exact if_pos (by decide)
  rw [below_of_slash slash, toTemplate]
  rfl

theorem toTemplate?_ne_sync
    (rest : Text) :
    toTemplate? rest ≠ some .sync := by
  unfold toTemplate?
  split
  · exact nofun
  · exact nofun
  · split <;>
      exact nofun

/-- A path with a slash below the base is not the place of the sync. -/
theorem sync_not_mem_below
    {rest : Text}
    (slash : '/' ∈ rest) :
    .sync ∉ below rest := by
  rw [below_of_slash slash, Option.mem_toList]
  exact toTemplate?_ne_sync rest

theorem sync_not_mem_ofPath
    {rest : Text}
    (slash : '/' ∈ rest) :
    .sync ∉ ofPath (base ++ rest) := by
  rw [ofPath_base]
  exact sync_not_mem_below slash

end Route

namespace Routing

/-- A request is sent only to a route that its path leads to. -/
theorem mem_ofPath_of_find
    {method : Method}
    {path : Text}
    {route : Route}
    (found : find method path = .to route) :
    route ∈ Route.ofPath path := by
  unfold find at found
  split at found
  · split at found <;>
      cases found
  · split at found
    next chosen search =>
      cases found
      exact List.mem_of_find?_eq_some search
    next =>
      cases found

theorem find_compile
    {id : Text}
    (nonempty : id ≠ [])
    (segment : '/' ∉ id) :
    find .post (Route.base ++ (id ++ '/' :: Route.compileWord)) =
      .to (.compile id) := by
  unfold find
  rw [Route.ofPath_base, Route.below_compile nonempty segment]
  rfl

end Routing

end ContractTemplates
