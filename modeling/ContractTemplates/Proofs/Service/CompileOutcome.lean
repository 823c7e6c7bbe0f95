import ContractTemplates.Proofs.Service.CompileRoute
import ContractTemplates.Proofs.Service.SentResponse
import ContractTemplates.Proofs.Template.SchemasReadable
import ContractTemplates.Proofs.Template.SyncFits
import ContractTemplates.Proofs.Template.SyncIsolation
import ContractTemplates.Proofs.Variable.FormMessages
import ContractTemplates.Service.Basic

namespace ContractTemplates

/-!
# What comes of a request to compile

A request to compile is decided by three questions: whether the template is there
and may be used, whether the form fits its definitions, and what the compiler
makes of the filled source. `CompileOutcome` gives the response and the calls of
the compiler for every answer to them, and `Service.compile_outcome` says that
nothing else comes of a request.

Every schema that a sync stores can be read, so a request goes wrong in an unforeseen
way only for halves of characters: in a message about the form, which cannot be sent
then, or in the filled source, which the compiler cannot be handed.
`Service.halved_label_unforeseen` is a request of the first kind.
-/

namespace Request

/-- Whether a request asks to compile a template with the values of a form. -/
structure AsksToCompile (request : Request) (id : Text) (form : Form) : Prop where
  method : request.method = .post
  place :
    request.target.place = Route.base ++ (id ++ '/' :: Route.compileWord)
  nonempty : id ≠ []
  segment : '/' ∉ id
  body :
    ∃ body compileRequest,
      bodyJson request.body = .ok (some body) ∧
        CompileRequest.check (Datum.ofJson body) = .ok compileRequest ∧
        compileRequest.form = form

/-- A body that is accepted brings its form to the service's own compiler. -/
theorem form_of_accepted
    {request : Request}
    {body : Json}
    {compileRequest : CompileRequest}
    (read : bodyJson request.body = .ok (some body))
    (accepted : CompileRequest.check (Datum.ofJson body) = .ok compileRequest) :
    request.form .shared = .ok compileRequest.form := by
  obtain ⟨entries, isRecord, fields⟩ := Checked.bind_eq_ok.mp accepted
  have shape : Datum.ofJson body = .map entries := by
    unfold Validation.record at isRecord
    split at isRecord
    next held same =>
      cases isRecord
      exact same
    next =>
      cases isRecord
  have checked : checkBody (some (Datum.ofJson body)) = .ok compileRequest := by
    rw [shape]
    exact fields
  unfold form
  rw [read]
  dsimp only [Option.map_some]
  rw [checked]
  rfl

end Request

namespace DocumentDraft

/-- Whether a template is stored under an id and may be compiled. -/
structure Permits
    (policy : CompilePolicy)
    (store : Store)
    (id : Text)
    (row : TemplateRow) : Prop where
  found : store.find? id = some row
  permitted : row.isPublished = true ∨ policy.allowUnpublished = true

/-- Whether checking a form against the definitions of a template has a result. -/
def Resolves
    (policy : CompilePolicy)
    (row : TemplateRow)
    (form : Form)
    (result : Except (List FieldProblem) Values) : Prop :=
  ∃ definitions,
    Schema.read row.schema = .ok definitions ∧
      form.resolve policy.enforceRequired definitions = result

variable
  {policy : CompilePolicy}
  {store : Store}
  {id : Text}
  {row : TemplateRow}
  {form : Form}

/-- The template that may be compiled is the one that is found. -/
theorem permitted?_eq_some_iff :
    permitted? policy store id = some row ↔ Permits policy store id row := by
  unfold permitted?
  rw [Option.filter_eq_some_iff, Bool.or_eq_true]
  exact ⟨fun both => ⟨both.1, both.2⟩, fun permits => ⟨permits.1, permits.2⟩⟩

theorem Permits.unique
    {other : TemplateRow}
    (permits : Permits policy store id row)
    (otherPermits : Permits policy store id other) :
    row = other :=
  Option.some.inj (permits.found.symm.trans otherPermits.found)

theorem Resolves.unique
    {result other : Except (List FieldProblem) Values}
    (resolves : Resolves policy row form result)
    (otherResolves : Resolves policy row form other) :
    result = other := by
  obtain ⟨definitions, read, rfl⟩ := resolves
  obtain ⟨others, readAgain, rfl⟩ := otherResolves
  rw [read] at readAgain
  cases readAgain
  rfl

/-- Checking a form has a result if the schema of the template can be read. -/
theorem Permits.exists_resolves
    (permits : Permits policy store id row)
    (readable : store.SchemasReadable)
    (form : Form) :
    ∃ result, Resolves policy row form result := by
  obtain ⟨definitions, read⟩ :=
    readable row (Store.mem_of_find?_eq_some permits.found).1
  exact ⟨_, definitions, read, rfl⟩

/-- Without a template that may be compiled there is nothing to fill. -/
theorem prepare_of_not_permits
    (none : ∀ row, ¬ Permits policy store id row) :
    prepare policy store id form = .error (.notFound id) := by
  have absent : permitted? policy store id = .none := by
    rw [Option.eq_none_iff_forall_ne_some]
    intro row found
    exact none row (permitted?_eq_some_iff.mp found)
  unfold prepare
  rw [absent]

/-- A form that does not fit is refused with its problems. -/
theorem prepare_of_problems
    {problems : List FieldProblem}
    (permits : Permits policy store id row)
    (resolves : Resolves policy row form (.error problems)) :
    prepare policy store id form = .error (.badForm problems) := by
  obtain ⟨definitions, read, rejected⟩ := resolves
  unfold prepare
  rw [permitted?_eq_some_iff.mpr permits]
  dsimp only
  rw [read]
  dsimp only
  rw [rejected]

/-- A form that fits fills the source of the template. -/
theorem prepare_of_values
    {values : Values}
    (permits : Permits policy store id row)
    (resolves : Resolves policy row form (.ok values)) :
    prepare policy store id form =
      .ok ⟨row.title, substitute row.source (Entries.find? values)⟩ := by
  obtain ⟨definitions, read, accepted⟩ := resolves
  unfold prepare
  rw [permitted?_eq_some_iff.mpr permits]
  dsimp only
  rw [read]
  dsimp only
  rw [accepted]

end DocumentDraft

namespace Response

/-- The status of a response. -/
def status : Response → Nat
  | json status _ => status
  | text status _ => status
  | redirect _ => 307

/-- The response to what the compiler made of the filled source of a template. -/
def compilation (title : RawText) : CompileResult → Response
  | .ok content =>
      .json 200 (Json.record [
        ("pdfDataUrl", .string (DataUrl.ofDocument content)),
        ("fileName", .string (title ++ ".pdf".toList))])
  | .error (.job (.timedOut timeout)) =>
      complaint 504 (CompileFault.timedOut timeout).message
  | .error (.job fault) =>
      complaint 502 ("PDF compilation failed: ".toList ++ fault.message)
  | .error .notText => unforeseen

/-- The document that was made, or not, is answered as what the compiler made. -/
theorem document_finish
    (draft : DocumentDraft)
    (result : CompileResult) :
    document (draft.finish result) = compilation draft.title result := by
  match result with
  | .ok content =>
      rfl
  | .error .notText =>
      rfl
  | .error (.job (.timedOut timeout)) =>
      rfl
  | .error (.job (.refused fault path)) =>
      rfl
  | .error (.job (.rejected diagnostic)) =>
      rfl
  | .error (.job (.exited status)) =>
      rfl
  | .error (.job .noDocument) =>
      rfl

/-- The statuses of the responses to a request to compile that are foreseen. -/
def foreseen : List Nat :=
  [200, 404, 422, 502, 504]

theorem status_unforeseen :
    unforeseen.status ∉ foreseen := by
  decide

/-- What the compiler made of a source is answered as is foreseen if it could be handed it. -/
theorem status_compilation_iff
    {title : RawText}
    {result : CompileResult} :
    (compilation title result).status ∈ foreseen ↔ result ≠ .error .notText := by
  have fine : 200 ∈ foreseen := by
    decide
  have late : 504 ∈ foreseen := by
    decide
  have badGateway : 502 ∈ foreseen := by
    decide
  match result with
  | .ok content =>
      exact iff_of_true fine nofun
  | .error .notText =>
      exact iff_of_false status_unforeseen (absurd rfl)
  | .error (.job (.timedOut timeout)) =>
      exact iff_of_true late nofun
  | .error (.job (.refused fault path)) =>
      exact iff_of_true badGateway nofun
  | .error (.job (.rejected diagnostic)) =>
      exact iff_of_true badGateway nofun
  | .error (.job (.exited status)) =>
      exact iff_of_true badGateway nofun
  | .error (.job .noDocument) =>
      exact iff_of_true badGateway nofun

/-- A complaint in a text is sent as it is. -/
theorem sent_complaint
    (status : Nat)
    (text : Text) :
    (complaint status text).sent = complaint status text :=
  sent_of_isText (by simp)

/-- What the compiler made of a template whose title is a text is sent as it is. -/
theorem sent_compilation
    {title : RawText}
    (titleText : title.isText = true)
    (result : CompileResult) :
    (compilation title result).sent = compilation title result := by
  have nameText : (title ++ Text.raw ".pdf".toList).isText = true := by
    rw [RawText.isText_append, titleText]
    rfl
  match result with
  | .ok content =>
      refine sent_of_isText ?_
      rw [Json.isText_record, List.all_cons, List.all_cons, Json.isText_string,
        Json.isText, nameText]
      rfl
  | .error .notText =>
      rfl
  | .error (.job (.timedOut timeout)) =>
      exact sent_complaint _ _
  | .error (.job (.refused fault path)) =>
      exact sent_complaint _ _
  | .error (.job (.rejected diagnostic)) =>
      exact sent_complaint _ _
  | .error (.job (.exited status)) =>
      exact sent_complaint _ _
  | .error (.job .noDocument) =>
      exact sent_complaint _ _

/-- The response with the problems of a form. -/
def report (problems : List FieldProblem) : Response :=
  detail 422 (.array (problems.map fun problem => .string problem.message))

/-- The problems of a form are sent exactly if all messages are texts. -/
theorem isText_report
    (problems : List FieldProblem) :
    (Json.record [("detail",
        .array (problems.map fun problem => .string problem.message))]).isText =
      problems.all fun problem => problem.message.isText := by
  simp [Json.isText, Json.areText_eq_all, Function.comp_def]

theorem sent_report
    {problems : List FieldProblem}
    (spoken : ∀ problem ∈ problems, problem.message.isText = true) :
    (report problems).sent = report problems := by
  apply sent_of_isText
  rw [isText_report, List.all_eq_true]
  exact spoken

theorem sent_report_of_half
    {problems : List FieldProblem}
    (halved : ∃ problem ∈ problems, problem.message.isText = false) :
    (report problems).sent = unforeseen := by
  apply sent_of_not_isText
  rw [isText_report, List.all_eq_false]
  simpa using halved

end Response

/--
What comes of a request to compile: the response, and the sources that the
compiler is called with.
-/
inductive CompileOutcome
    (policy : CompilePolicy)
    (store : Store)
    (outcome : RawText → CompileResult)
    (id : Text)
    (form : Form) :
    Response → List RawText → Prop where
  | unknown
      (none : ∀ row, ¬ DocumentDraft.Permits policy store id row) :
      CompileOutcome policy store outcome id form .unknownTemplate []
  | rejected
      {row : TemplateRow}
      {problems : List FieldProblem}
      (permits : DocumentDraft.Permits policy store id row)
      (resolves : DocumentDraft.Resolves policy row form (.error problems))
      (spoken : ∀ problem ∈ problems, problem.message.isText = true) :
      CompileOutcome policy store outcome id form (.report problems) []
  | unspeakable
      {row : TemplateRow}
      {problems : List FieldProblem}
      (permits : DocumentDraft.Permits policy store id row)
      (resolves : DocumentDraft.Resolves policy row form (.error problems))
      (halved : ∃ problem ∈ problems, problem.message.isText = false) :
      CompileOutcome policy store outcome id form .unforeseen []
  | compiled
      {row : TemplateRow}
      {values : Values}
      (permits : DocumentDraft.Permits policy store id row)
      (resolves : DocumentDraft.Resolves policy row form (.ok values)) :
      CompileOutcome policy store outcome id form
        (.compilation row.title
          (outcome (substitute row.source (Entries.find? values))))
        [substitute row.source (Entries.find? values)]

/--
Whether a request to compile can be answered as is foreseen: neither a message about the
form nor the filled source is in the way with half a character.
-/
structure IsForeseeable
    (policy : CompilePolicy)
    (store : Store)
    (outcome : RawText → CompileResult)
    (id : Text)
    (form : Form) : Prop where
  spoken :
    ∀ row problems,
      DocumentDraft.Permits policy store id row →
      DocumentDraft.Resolves policy row form (.error problems) →
      ∀ problem ∈ problems, problem.message.isText = true
  handed :
    ∀ row values,
      DocumentDraft.Permits policy store id row →
      DocumentDraft.Resolves policy row form (.ok values) →
      outcome (substitute row.source (Entries.find? values)) ≠ .error .notText

namespace CompileOutcome

variable
  {policy : CompilePolicy}
  {store : Store}
  {outcome : RawText → CompileResult}
  {id : Text}
  {form : Form}
  {response : Response}
  {calls : List RawText}

/-- The compiler is called exactly if a permitted template fits the form. -/
theorem calls_ne_nil_iff
    (made : CompileOutcome policy store outcome id form response calls) :
    calls ≠ [] ↔
      ∃ row values,
        DocumentDraft.Permits policy store id row ∧
          DocumentDraft.Resolves policy row form (.ok values) := by
  have uncalled
      {row : TemplateRow}
      {problems : List FieldProblem}
      (permits : DocumentDraft.Permits policy store id row)
      (resolves : DocumentDraft.Resolves policy row form (.error problems)) :
      ¬ ∃ row values,
          DocumentDraft.Permits policy store id row ∧
            DocumentDraft.Resolves policy row form (.ok values) := by
    rintro ⟨other, values, otherPermits, otherResolves⟩
    cases permits.unique otherPermits
    cases resolves.unique otherResolves
  cases made with
  | unknown none =>
      refine iff_of_false (absurd rfl) ?_
      rintro ⟨row, values, permits, _⟩
      exact none row permits
  | rejected permits resolves spoken =>
      exact iff_of_false (absurd rfl) (uncalled permits resolves)
  | unspeakable permits resolves halved =>
      exact iff_of_false (absurd rfl) (uncalled permits resolves)
  | compiled permits resolves =>
      exact iff_of_true (List.cons_ne_nil _ _) ⟨_, _, permits, resolves⟩

/-- The response has one of five statuses exactly if no half is in the way. -/
theorem status_mem_iff
    (made : CompileOutcome policy store outcome id form response calls) :
    response.status ∈ Response.foreseen ↔
      IsForeseeable policy store outcome id form := by
  cases made with
  | unknown none =>
      have unknown : 404 ∈ Response.foreseen := by
        decide
      refine iff_of_true unknown ⟨?_, ?_⟩
      · intro row problems permits
        exact absurd permits (none row)
      · intro row values permits
        exact absurd permits (none row)
  | rejected permits resolves spoken =>
      have unprocessable : 422 ∈ Response.foreseen := by
        decide
      refine iff_of_true unprocessable ⟨?_, ?_⟩
      · intro other others otherPermits otherResolves
        cases permits.unique otherPermits
        cases resolves.unique otherResolves
        exact spoken
      · intro other values otherPermits otherResolves
        cases permits.unique otherPermits
        cases resolves.unique otherResolves
  | unspeakable permits resolves halved =>
      refine iff_of_false Response.status_unforeseen fun foreseeable => ?_
      obtain ⟨problem, among, half⟩ := halved
      have whole := foreseeable.spoken _ _ permits resolves problem among
      rw [half] at whole
      cases whole
  | compiled permits resolves =>
      rw [Response.status_compilation_iff]
      constructor
      · intro handed
        refine ⟨?_, ?_⟩
        · intro other problems otherPermits otherResolves
          cases permits.unique otherPermits
          cases resolves.unique otherResolves
        · intro other values otherPermits otherResolves
          cases permits.unique otherPermits
          cases resolves.unique otherResolves
          exact handed
      · intro foreseeable
        exact foreseeable.handed _ _ permits resolves

end CompileOutcome

/-- Without halves in definitions and names only the source can be in the way. -/
theorem IsForeseeable.of_areText
    {policy : CompilePolicy}
    {store : Store}
    {outcome : RawText → CompileResult}
    {id : Text}
    {form : Form}
    (definitionsText :
      ∀ row, DocumentDraft.Permits policy store id row → row.HasTexts)
    (namesText : ∀ entry ∈ form, entry.1.isText = true)
    (handed : ∀ source, outcome source ≠ .error .notText) :
    IsForeseeable policy store outcome id form where
  spoken row problems permits resolves := by
    obtain ⟨definitions, read, rejected⟩ := resolves
    exact Form.isText_message_of_resolve (definitionsText row permits definitions read)
      namesText rejected
  handed row values permits resolves :=
    handed _

namespace Service

/-- A compiler that notes the sources it is called with, behind those from before. -/
def recorded (outcome : RawText → CompileResult) (source : RawText) :
    StateM (List RawText) CompileResult := do
  modify (· ++ [source])
  pure (outcome source)

variable
  {service : Service (StateM (List RawText))}
  {request : Request}
  {id : Text}
  {form : Form}

/-- A request to compile is answered with the document that is made of its form. -/
theorem answer_of_asksToCompile
    (shared : service.supply = .shared)
    (asks : request.AsksToCompile id form) :
    service.answer request =
      (do
        let made ←
          Document.make service.compile service.settings.policy service.store id
            form
        pure ((Response.document made).sent, service.store)) := by
  obtain ⟨body, compileRequest, read, accepted, rfl⟩ := asks.body
  unfold answer
  rw [asks.method, asks.place,
    Routing.find_compile asks.nonempty asks.segment]
  unfold respond
  dsimp only
  unfold compiled
  rw [shared, Request.form_of_accepted read accepted]
  rfl

/-- A request that cannot be filled is answered without a call of the compiler. -/
theorem answer_of_fault
    {fault : DocumentFault}
    (shared : service.supply = .shared)
    (asks : request.AsksToCompile id form)
    (prepared :
      DocumentDraft.prepare service.settings.policy service.store id form =
        .error fault) :
    (service.answer request).run [] =
      (((Response.failure fault).sent, service.store), []) := by
  rw [answer_of_asksToCompile shared asks]
  unfold Document.make
  rw [prepared]
  rfl

/-- A filled source is given to the compiler once, and what it makes is answered. -/
theorem answer_of_draft
    {outcome : RawText → CompileResult}
    {draft : DocumentDraft}
    (compiler : service.compile = recorded outcome)
    (shared : service.supply = .shared)
    (asks : request.AsksToCompile id form)
    (prepared :
      DocumentDraft.prepare service.settings.policy service.store id form =
        .ok draft) :
    (service.answer request).run [] =
      (((Response.compilation draft.title (outcome draft.source)).sent, service.store),
        [draft.source]) := by
  rw [answer_of_asksToCompile shared asks, ← Response.document_finish]
  unfold Document.make
  rw [prepared, compiler]
  rfl

/--
A request to compile a template is answered by what comes of it if the rows of the
store fit and their schemas can be read.
-/
theorem answer_compileOutcome
    {outcome : RawText → CompileResult}
    (readable : service.store.SchemasReadable)
    (fits : service.store.Fits)
    (compiler : service.compile = recorded outcome)
    (shared : service.supply = .shared)
    (asks : request.AsksToCompile id form) :
    ∃ response calls,
      (service.answer request).run [] = ((response, service.store), calls) ∧
        CompileOutcome service.settings.policy service.store outcome id form
          response calls := by
  by_cases permitted :
      ∃ row, DocumentDraft.Permits service.settings.policy service.store id row
  · obtain ⟨row, permits⟩ := permitted
    obtain ⟨result, resolves⟩ := permits.exists_resolves readable form
    cases result with
    | error problems =>
        have prepared := DocumentDraft.prepare_of_problems permits resolves
        have answered := answer_of_fault shared asks prepared
        by_cases spoken : ∀ problem ∈ problems, problem.message.isText = true
        · have sent := Response.sent_report spoken
          refine ⟨_, _, answered.trans ?_, .rejected permits resolves spoken⟩
          exact congrArg (fun response => ((response, service.store), [])) sent
        · have halved : ∃ problem ∈ problems, problem.message.isText = false := by
            simpa using spoken
          have sent := Response.sent_report_of_half halved
          refine ⟨_, _, answered.trans ?_, .unspeakable permits resolves halved⟩
          exact congrArg (fun response => ((response, service.store), [])) sent
    | ok values =>
        have prepared := DocumentDraft.prepare_of_values permits resolves
        have titleText := (TemplateRow.isText_of_fits (fits id row permits.found)).1
        have answered := answer_of_draft compiler shared asks prepared
        rw [Response.sent_compilation titleText] at answered
        exact ⟨_, _, answered, .compiled permits resolves⟩
  · have none :
        ∀ row,
          ¬ DocumentDraft.Permits service.settings.policy service.store id row :=
      fun row permits => permitted ⟨row, permits⟩
    have prepared :
        DocumentDraft.prepare service.settings.policy service.store id form =
          .error (.notFound id) :=
      DocumentDraft.prepare_of_not_permits none
    exact ⟨_, _, answer_of_fault shared asks prepared, .unknown none⟩

/--
A request to compile a template that syncs have stored is answered by what comes
of it, the compiler is called exactly if a permitted template fits the form, and
the store stays as it is. The status is one of those foreseen exactly if no half of a
character is in the way, which none is where definitions, names and sources have none.
-/
theorem compile_outcome
    {syncs : List (Location × Files)}
    {outcome : RawText → CompileResult}
    (reached : service.store = Store.empty.afterSyncs syncs)
    (compiler : service.compile = recorded outcome)
    (shared : service.supply = .shared)
    (asks : request.AsksToCompile id form) :
    ∃ response calls,
      (service.answer request).run [] = ((response, service.store), calls) ∧
        CompileOutcome service.settings.policy service.store outcome id form
          response calls ∧
        (calls ≠ [] ↔
          ∃ row values,
            DocumentDraft.Permits service.settings.policy service.store id row ∧
              DocumentDraft.Resolves service.settings.policy row form
                (.ok values)) ∧
        (response.status ∈ [200, 404, 422, 502, 504] ↔
          IsForeseeable service.settings.policy service.store outcome id form) ∧
        ((∀ row,
            DocumentDraft.Permits service.settings.policy service.store id row →
            row.HasTexts) →
          (∀ entry ∈ form, entry.1.isText = true) →
          (∀ source, outcome source ≠ .error .notText) →
          response.status ∈ [200, 404, 422, 502, 504]) := by
  have readable : service.store.SchemasReadable := by
    rw [reached]
    exact Store.schemasReadable_afterSyncs syncs
  have fits : service.store.Fits := by
    rw [reached]
    exact Store.fits_afterSyncs syncs
  obtain ⟨response, calls, answered, made⟩ :=
    answer_compileOutcome readable fits compiler shared asks
  refine ⟨response, calls, answered, made, made.calls_ne_nil_iff,
    made.status_mem_iff, ?_⟩
  intro definitionsText namesText handed
  exact made.status_mem_iff.mpr (.of_areText definitionsText namesText handed)

/-- A service that has synced a directory with one template in it. -/
def ofOneTemplate : Service (StateM (List RawText)) where
  settings := .standard
  store := Store.empty.afterSyncs [([], SourceFile.oneTemplate)]
  files := SourceFile.oneTemplate
  home := []
  compile := recorded fun _ => .ok []
  supply := .shared
  isInstalled := fun _ => true
  host := "localhost".toList
  timeMark := []

/-- A request to compile that template with an empty form. -/
def oneRequest : Request where
  method := .post
  target := ⟨"/api/templates/a/compile".toList, []⟩
  body := "\x7b\x7d".toList

theorem oneRequest_asksToCompile :
    oneRequest.AsksToCompile "a".toList [] where
  method := rfl
  place := by
    decide +kernel
  nonempty := by
    decide
  segment := by
    decide
  body := ⟨.object [], ⟨[]⟩, by rfl, rfl, rfl⟩

/-- The compiler is called for a template that is there and needs no form. -/
theorem compile_outcome_ofOneTemplate :
    ∃ response calls,
      (ofOneTemplate.answer oneRequest).run [] =
          ((response, ofOneTemplate.store), calls) ∧
        calls ≠ [] ∧
        response.status ∈ [200, 404, 422, 502, 504] := by
  have stored :
      (ofOneTemplate.store.find? "a".toList).map TemplateRow.schema =
        some "[]".toList := by
    unfold ofOneTemplate Store.afterSyncs Store.afterSync Store.sync
      SourceFile.oneTemplate
    rw [List.foldl_cons, SourceFile.all_single (by decide)]
    decide +kernel
  obtain ⟨row, found, schema⟩ := Option.map_eq_some_iff.mp stored
  have permits :
      DocumentDraft.Permits ofOneTemplate.settings.policy ofOneTemplate.store
        "a".toList row :=
    ⟨found, .inr rfl⟩
  have readable : Schema.read row.schema = .ok [] := by
    rw [schema]
    decide +kernel
  have resolves :
      DocumentDraft.Resolves ofOneTemplate.settings.policy row [] (.ok []) :=
    ⟨[], readable, rfl⟩
  have reached :
      ofOneTemplate.store =
        Store.empty.afterSyncs [([], SourceFile.oneTemplate)] :=
    rfl
  obtain ⟨response, calls, answered, _, called, _, status⟩ :=
    compile_outcome reached rfl rfl oneRequest_asksToCompile
  refine ⟨response, calls, answered, called.mpr ⟨row, [], permits, resolves⟩,
    status ?_ nofun nofun⟩
  intro other otherPermits definitions read
  rw [← permits.unique otherPermits, readable] at read
  cases read
  exact nofun

/-- A directory with a published template whose one field has half a character for a label. -/
def halvedLabel : Files := [
  (["a.typ".toList],
    .file (Text.utf8
      ("/*---\nid: a\ntitle: A\npublished: true\nvariables:\n- name: v\n" ++
        "  type: text\n  label: \"\\ud800\"\n  required: true\n---*/\nBody").toList))]

/-- A service that has synced this directory. -/
def ofHalvedLabel : Service (StateM (List RawText)) :=
  { ofOneTemplate with
    store := Store.empty.afterSyncs [([], halvedLabel)]
    files := halvedLabel }

/-- The definition of the field. -/
def halvedDefinition : Definition :=
  ⟨"v".toList, .text, [.half 0], true, none, none⟩

/--
The form without the field is refused for one reason, that the field is required, but the
message quotes the label, and the request is answered with an internal error.
-/
theorem halved_label_unforeseen :
    (∃ row,
        DocumentDraft.Permits ofHalvedLabel.settings.policy ofHalvedLabel.store
            "a".toList row ∧
          DocumentDraft.Resolves ofHalvedLabel.settings.policy row []
            (.error [.missing [.half 0]])) ∧
      (ofHalvedLabel.answer oneRequest).run [] =
        ((.unforeseen, ofHalvedLabel.store), []) := by
  have stored :
      (ofHalvedLabel.store.find? "a".toList).map
          (fun row => (Schema.read row.schema).toOption) =
        some (some [halvedDefinition]) := by
    unfold ofHalvedLabel Store.afterSyncs Store.afterSync Store.sync halvedLabel
    rw [List.foldl_cons, SourceFile.all_single (by decide)]
    decide +kernel
  obtain ⟨row, found, schema⟩ := Option.map_eq_some_iff.mp stored
  have readable : Schema.read row.schema = .ok [halvedDefinition] := by
    cases read : Schema.read row.schema with
    | error fault =>
        rw [read] at schema
        cases schema
    | ok definitions =>
        rw [read] at schema
        exact congrArg Except.ok (Option.some.inj schema)
  have permits :
      DocumentDraft.Permits ofHalvedLabel.settings.policy ofHalvedLabel.store
        "a".toList row :=
    ⟨found, .inr rfl⟩
  have resolves :
      DocumentDraft.Resolves ofHalvedLabel.settings.policy row []
        (.error [.missing [.half 0]]) :=
    ⟨_, readable, rfl⟩
  have halved :
      ∃ problem ∈ [FieldProblem.missing [.half 0]], problem.message.isText = false :=
    ⟨_, List.mem_singleton_self _, rfl⟩
  refine ⟨⟨row, permits, resolves⟩, ?_⟩
  rw [← Response.sent_report_of_half halved]
  exact answer_of_fault rfl oneRequest_asksToCompile
    (DocumentDraft.prepare_of_problems permits resolves)

end Service

end ContractTemplates
