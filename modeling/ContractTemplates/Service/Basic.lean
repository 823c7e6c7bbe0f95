import ContractTemplates.Service.CompileRequest
import ContractTemplates.Service.Response
import ContractTemplates.Service.Route
import ContractTemplates.Service.Target
import ContractTemplates.Settings.Basic
import ContractTemplates.Template.Catalogue

namespace ContractTemplates

/-!
# The service

The service answers requests about templates from the store, the settings and
the files around it. Only a sync changes the store, and only if it goes through;
only a request to compile calls the compiler, and only after everything else
about the request has been found in order.

The compiler is a parameter and may have effects of any kind.
-/

/-- A request to the service. -/
structure Request where
  method : Method
  target : Target
  body : Text
  deriving DecidableEq, Repr

/-- How the service comes by its compiler. -/
inductive CompilerSupply where
  /-- There is one compiler for all requests. -/
  | shared
  /-- Each request may say how its compiler is made. -/
  | perRequest
  deriving DecidableEq, Repr

/-- What the service works with. -/
structure Service (m : Type → Type) where
  settings : Settings
  store : Store
  files : Files
  /-- The directory in which relative paths of the settings begin. -/
  home : Location
  compile : RawText → m CompileResult
  supply : CompilerSupply
  isInstalled : Text → Bool
  /-- The address of the service, as it stands in locations. -/
  host : Text
  timeMark : Text

/-- The settings about what may be compiled. -/
def Settings.policy (settings : Settings) : CompilePolicy where
  enforceRequired := settings.enforceRequired
  allowUnpublished := settings.allowUnpublished

namespace Request

/-- A bound on prices from the query. -/
def checkPrice (target : Target) (name : Text) : Checked (Option Int) :=
  match target.field? name with
  | none => .ok none
  | some text =>
      Checked.within (.field "query".toList)
        (Checked.within (.field name)
          ((Validation.naturalInteger (.string text)).map some))

/-- What a target asks of the catalogue. -/
def checkQuery (target : Target) : Checked CatalogueQuery :=
  ((checkPrice target "min_price".toList).both
    (checkPrice target "max_price".toList)).map fun (minPrice, maxPrice) =>
      { search := target.field? "search".toList, minPrice, maxPrice }

/-- The body of a request: a JSON value, or nothing. -/
def bodyJson (body : Text) : Except Json.Error (Option Json) :=
  match body with
  | [] => .ok none
  | c :: rest =>
      (Json.read (if c = Char.ofNat 0xFEFF then rest else body)).map some

/-- A list of texts or paths by which a compiler may be made. -/
def checkParts (part : Datum → Checked Unit) : Datum → Checked Unit
  | .null => .ok ()
  | .list items => (Checked.items part items).map fun _ => ()
  | .string _ => Checked.fail .textNotSequence
  | _ => Checked.fail .notSequence

/-- A part that is a path. -/
def checkPathPart : Datum → Checked Unit
  | .string _ => .ok ()
  | _ => Checked.fail .notPath

/-- The fields of a body by which the compiler is made. -/
def checkCompilerFields (body : Datum) : Checked Unit :=
  let field := fun (name : String) (part : Datum → Checked Unit) =>
    match body with
    | .map entries =>
        Validation.optional [name.toList] () (checkParts part) entries
    | _ =>
        Checked.within (.field name.toList) (Checked.fail .missing)
  ((field "command" fun datum => (Validation.text datum).map fun _ => ()).both
    (field "font_paths" checkPathPart)).map fun _ => ()

/-- The field of a query by which the compiler is made. -/
def checkCompilerQuery (target : Target) : Checked Unit :=
  match target.field? "timeout".toList with
  | none => .ok ()
  | some text =>
      Checked.within (.field "query".toList)
        (Checked.within (.field "timeout".toList)
          ((Validation.double (.string text)).map fun _ => ()))

/-- What is asked of the compiler before it is made. -/
def checkCompiler
    (supply : CompilerSupply)
    (target : Target)
    (body : Option Datum) :
    Checked Unit :=
  match supply with
  | .shared => .ok ()
  | .perRequest =>
      ((checkCompilerQuery target).both
        (Checked.within (.field "body".toList)
          ((body.map checkCompilerFields).getD (.ok ())))).map fun _ => ()

/-- The form in a body. -/
def checkBody : Option Datum → Checked CompileRequest
  | none => Checked.fail .missing
  | some (.map entries) => CompileRequest.checkFields entries
  | some _ => Checked.fail .notFields

/-- The form that a request to compile brings, or the response to a bad request. -/
def form (supply : CompilerSupply) (request : Request) :
    Except Response Form :=
  match bodyJson request.body with
  | .error .malformed =>
      .error
        (.invalid [⟨[.field "body".toList], .malformedJson⟩])
  | .error .tooManyDigits => .error .unreadableBody
  | .ok body =>
      let datum := body.map Datum.ofJson
      match
        (checkCompiler supply request.target datum).both
          (Checked.within (.field "body".toList) (checkBody datum)) with
      | .ok (_, compileRequest) => .ok compileRequest.form
      | .error issues => .error (.invalid issues)

end Request

namespace Service

/-- The location of the template files. -/
def templatesLocation (service : Service m) : Location :=
  service.settings.templatesDirectory.resolve service.home

/-- Takes over the template files. -/
def sync (service : Service m) : Except SyncFault (SyncReport × Store) :=
  service.store.sync service.templatesLocation service.files

/-- The store when the service has begun its work; a sync that stops does no harm. -/
def started (service : Service m) : Store :=
  match service.sync with
  | .ok (_, store) => store
  | .error _ => service.store

/-- The response to a request for the catalogue. -/
def listed (service : Service m) (target : Target) : Response :=
  match Request.checkQuery target with
  | .error issues => .invalid issues
  | .ok query =>
      .catalogue service.timeMark (Catalogue.list query service.store)

/-- The response to a request to sync, and the store after it. -/
def synced (service : Service m) : Response × Store :=
  match service.sync with
  | .ok (report, store) => (.synced report, store)
  | .error _ => (.unforeseen, service.store)

/-- The response to a request to compile a template. -/
def compiled [Monad m] (service : Service m) (id : Text) (request : Request) :
    m Response :=
  match request.form service.supply with
  | .error response => pure response
  | .ok form => do
      let made ←
        Document.make service.compile service.settings.policy service.store id
          form
      pure (.document made)

/-- The response of a route, and the store after it. -/
def respond [Monad m] (service : Service m) (request : Request) :
    Route → m (Response × Store)
  | .catalogue => pure (service.listed request.target, service.store)
  | .sync => pure service.synced
  | .detail id =>
      pure
        (.template service.timeMark (service.store.find? id), service.store)
  | .compile id => do
      let response ← service.compiled id request
      pure (response, service.store)
  | .health =>
      let command := service.settings.compilerCommand
      pure (.health command (service.isInstalled command), service.store)

/-- Answers a request; the second part is the store after it. -/
def answer [Monad m] (service : Service m) (request : Request) :
    m (Response × Store) :=
  match Routing.find request.method request.target.place with
  | .to route => do
      let (response, store) ← service.respond request route
      pure (response.sent, store)
  | .wrongMethod => pure (.wrongMethod, service.store)
  | .redirected path =>
      pure
        (.redirect (request.target.location service.host path), service.store)
  | .nowhere => pure (.nowhere, service.store)

end Service

end ContractTemplates
