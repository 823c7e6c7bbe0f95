import ContractTemplates.Text.Basic

namespace ContractTemplates

/-!
# Routes

The service knows five routes. A path may lead to more than one, because the
place of the sync is also a possible place of a template; the first one that
takes the method of the request counts. A path that leads nowhere is redirected
if it leads somewhere with a slash more or without its slashes at the end.
-/

/-- What a request asks to be done. -/
inductive Method where
  | get
  | post
  | other
  deriving DecidableEq, Repr

/-- The method of a name. -/
def Method.ofName (name : Text) : Method :=
  if name = "GET".toList then
    .get
  else if name = "POST".toList then
    .post
  else
    .other

/-- A route of the service. -/
inductive Route where
  | catalogue
  | sync
  | detail (id : Text)
  | compile (id : Text)
  | health
  deriving DecidableEq, Repr

namespace Route

/-- The method that a route takes. -/
def method : Route → Method
  | catalogue => .get
  | sync => .post
  | detail _ => .get
  | compile _ => .post
  | health => .get

/-- What the paths of all templates begin with. -/
def base : Text :=
  "/api/templates/".toList

/-- Whether a path ends here; a last line feed does not count. -/
def isEnd (rest : Text) : Bool :=
  rest = [] || rest = ['\n']

/-- Whether what follows the base is a fixed text. -/
def isFixed (word rest : Text) : Bool :=
  (Text.after? word rest).any isEnd

/-- The route to a template, for what follows the base. -/
def toTemplate? (rest : Text) : Option Route :=
  match Text.cut '/' rest with
  | ([], _) => none
  | (id, none) => some (.detail id)
  | (id, some later) =>
      if isFixed "compile".toList later then some (.compile id) else none

/-- The routes of a path below the base. -/
def below (rest : Text) : List Route :=
  (if isFixed [] rest then [.catalogue] else []) ++
    (if isFixed "sync".toList rest then [.sync] else []) ++
    (toTemplate? rest).toList

/-- The routes that a path leads to, in the order in which they are tried. -/
def ofPath (path : Text) : List Route :=
  ((Text.after? base path).map below).getD [] ++
    (if isFixed "/health".toList path then [.health] else [])

end Route

/-- Where a request is sent on. -/
inductive Routing where
  | to (route : Route)
  | wrongMethod
  | redirected (path : Text)
  | nowhere
  deriving DecidableEq, Repr

namespace Routing

/-- The path with a slash more, or without its slashes at the end. -/
def toggled (path : Text) : Text :=
  if path.getLast? = some '/' then
    (path.reverse.dropWhile (· = '/')).reverse
  else
    path ++ ['/']

/-- Where a request with a method and a path is sent on. -/
def find (method : Method) (path : Text) : Routing :=
  match Route.ofPath path with
  | [] =>
      if path ≠ ['/'] ∧ Route.ofPath (toggled path) ≠ [] then
        .redirected (toggled path)
      else
        .nowhere
  | routes =>
      match routes.find? fun route => route.method = method with
      | some route => .to route
      | none => .wrongMethod

/-- A request is sent to a route only if the route takes its method. -/
theorem method_of_find
    {method : Method}
    {path : Text}
    {route : Route}
    (found : find method path = .to route) :
    route.method = method := by
  unfold find at found
  split at found
  · split at found <;>
      simp at found
  · split at found
    next chosen search =>
      have taken := List.find?_some search
      cases found
      simpa using taken
    next =>
      simp at found

end Routing

end ContractTemplates
