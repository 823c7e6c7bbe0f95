import ContractTemplates.Proofs.Service.CompileOutcome
import ContractTemplates.Proofs.Template.StoreRows

namespace ContractTemplates

/-!
# Hidden templates

A template that is not published is hidden if it may not be compiled either. Two stores
that share their published rows are then told apart neither by the catalogue nor by a
request to compile, `Service.hidden_templates_unseen`: what the response is made of, and
whether and on what the compiler is called, is the same in both, whatever else they hold.
-/

namespace Store

/--
Whether two stores have the same published rows in the same order. Each store has at
most one row under an id.
-/
structure SharePublished (first second : Store) : Prop where
  published :
    first.templates.filter (·.isPublished) =
      second.templates.filter (·.isPublished)
  idsDistinct : (first.templates.map TemplateRow.id).Nodup
  otherIdsDistinct : (second.templates.map TemplateRow.id).Nodup

/-- Where ids are distinct, hiding rows before a look-up is hiding what it finds. -/
theorem find?_filter_of_distinct
    {rows : List TemplateRow}
    (distinct : (rows.map TemplateRow.id).Nodup)
    (shown : TemplateRow → Bool)
    (id : Text) :
    (rows.find? fun row => row.id = id).filter shown =
      (rows.filter shown).find? fun row => row.id = id := by
  induction rows with
  | nil =>
      rfl
  | cons head rest inductionHypothesis =>
      obtain ⟨apart, others⟩ := List.nodup_cons.mp distinct
      by_cases asked : head.id = id
      · -- No later row has the id, so a head that is hidden leaves nothing to be found.
        have absent :
            (rest.filter shown).find? (fun row => row.id = id) = none := by
          rw [List.find?_eq_none]
          intro row member
          have stored : row.id ∈ rest.map TemplateRow.id :=
            List.mem_map_of_mem (List.mem_filter.mp member).1
          rw [decide_eq_true_iff, ← asked]
          exact fun same => apart (same ▸ stored)
        cases visible : shown head with
        | true =>
            simp [asked, visible]
        | false =>
            simp [asked, visible, absent]
      · cases visible : shown head with
        | true =>
            simpa [asked, visible] using inductionHypothesis others
        | false =>
            simpa [asked, visible] using inductionHypothesis others

/-- Under an id the same published template is found. -/
theorem SharePublished.filter_find?
    {first second : Store}
    (share : SharePublished first second)
    (id : Text) :
    (first.find? id).filter (·.isPublished) =
      (second.find? id).filter (·.isPublished) := by
  unfold find?
  rw [find?_filter_of_distinct share.idsDistinct,
    find?_filter_of_distinct share.otherIdsDistinct, share.published]

/-- The catalogue looks at the published rows only. -/
theorem SharePublished.list
    {first second : Store}
    (share : SharePublished first second)
    (query : CatalogueQuery) :
    Catalogue.list query first = Catalogue.list query second := by
  unfold Catalogue.list
  rw [share.published]

end Store

/-- Where hidden templates may not be compiled, a document is prepared without them. -/
theorem DocumentDraft.prepare_of_sharePublished
    {policy : CompilePolicy}
    {first second : Store}
    (share : first.SharePublished second)
    (hidden : policy.allowUnpublished = false)
    (id : Text)
    (form : Form) :
    prepare policy first id form = prepare policy second id form := by
  have permitted : permitted? policy first id = permitted? policy second id := by
    unfold permitted?
    simpa only [hidden, Bool.or_false] using share.filter_find? id
  unfold prepare
  rw [permitted]

/-- Whether a request asks for the catalogue, or to compile a template. -/
inductive Request.AsksForPublished (request : Request) : Prop where
  | catalogue
      (method : request.method = .get)
      (place : request.target.place = Route.base)
  | compile
      (id : Text)
      (method : request.method = .post)
      (place :
        request.target.place = Route.base ++ (id ++ '/' :: Route.compileWord))

/-- Such a request is sent neither to the sync nor to the detail of a template. -/
theorem Request.AsksForPublished.route
    {request : Request}
    (asks : request.AsksForPublished)
    {route : Route}
    (found : Routing.find request.method request.target.place = .to route) :
    route ≠ .sync ∧ ∀ id, route ≠ .detail id := by
  cases asks with
  | catalogue method place =>
      have toCatalogue : Routing.find .get Route.base = .to .catalogue := by
        decide
      rw [method, place, toCatalogue] at found
      cases found
      exact ⟨nofun, nofun⟩
  | compile id method place =>
      rw [method, place] at found
      have slash : '/' ∈ id ++ '/' :: Route.compileWord :=
        List.mem_append_right _ List.mem_cons_self
      constructor
      · rintro rfl
        exact Route.sync_not_mem_ofPath slash (Routing.mem_ofPath_of_find found)
      · rintro other rfl
        cases Routing.method_of_find found

namespace Service

/-- The service with another store. -/
def upon (service : Service m) (store : Store) : Service m :=
  { service with store }

/-- A reply that leaves a store as it is. -/
def leaving [Monad m] (store : Store) (reply : m Response) :
    m (Response × Store) := do
  let response ← reply
  pure (response, store)

section Shared

variable
  {m : Type → Type}
  [Monad m]
  [LawfulMonad m]
  {service : Service m}
  {first second : Store}
  {request : Request}

theorem leaving_pure
    (store : Store)
    (response : Response) :
    leaving store (pure response : m Response) = pure (response, store) :=
  pure_bind _ _

/-- A reply may be made ready to be sent before or after it leaves the store. -/
theorem sent_leaving
    (store : Store)
    (reply : m Response) :
    (do
      let (response, after) ← leaving store reply
      pure (response.sent, after)) =
      leaving store (Response.sent <$> reply) := by
  simp [leaving]

/-- A route that neither syncs nor shows a single template is answered alike. -/
theorem respond_of_sharePublished
    {route : Route}
    (share : first.SharePublished second)
    (hidden : service.settings.allowUnpublished = false)
    (notSync : route ≠ .sync)
    (notDetail : ∀ id, route ≠ .detail id) :
    ∃ reply : m Response,
      (service.upon first).respond request route = leaving first reply ∧
        (service.upon second).respond request route =
          leaving second reply := by
  cases route with
  | catalogue =>
      have alike :
          (service.upon first).listed request.target =
            (service.upon second).listed request.target := by
        unfold listed upon
        simp only [share.list]
      refine ⟨pure ((service.upon first).listed request.target), ?_, ?_⟩
      · exact (leaving_pure ..).symm
      · rw [alike]
        exact (leaving_pure ..).symm
  | sync =>
      exact absurd rfl notSync
  | detail id =>
      exact absurd rfl (notDetail id)
  | compile id =>
      have prepared :
          ∀ form,
            DocumentDraft.prepare service.settings.policy first id form =
              DocumentDraft.prepare service.settings.policy second id form :=
        DocumentDraft.prepare_of_sharePublished share hidden id
      have alike :
          (service.upon first).compiled id request =
            (service.upon second).compiled id request := by
        unfold compiled upon Document.make
        simp only [prepared]
      refine ⟨(service.upon first).compiled id request, rfl, ?_⟩
      rw [alike]
      rfl
  | health =>
      exact
        ⟨pure
            (.health service.settings.compilerCommand
              (service.isInstalled service.settings.compilerCommand)),
          (leaving_pure ..).symm, (leaving_pure ..).symm⟩

/-- One and the same computation replies whichever of the two stores there is. -/
theorem answer_of_sharePublished
    (share : first.SharePublished second)
    (hidden : service.settings.allowUnpublished = false)
    (asks : request.AsksForPublished) :
    ∃ reply : m Response,
      (service.upon first).answer request = leaving first reply ∧
        (service.upon second).answer request = leaving second reply := by
  unfold answer
  cases found : Routing.find request.method request.target.place with
  | «to» route =>
      obtain ⟨notSync, notDetail⟩ := asks.route found
      obtain ⟨reply, fromFirst, fromSecond⟩ :
          ∃ reply : m Response,
            (service.upon first).respond request route = leaving first reply ∧
              (service.upon second).respond request route =
                leaving second reply :=
        respond_of_sharePublished share hidden notSync notDetail
      refine ⟨Response.sent <$> reply, ?_, ?_⟩
      · simp only [fromFirst, sent_leaving]
      · simp only [fromSecond, sent_leaving]
  | wrongMethod =>
      exact ⟨pure .wrongMethod, (leaving_pure ..).symm, (leaving_pure ..).symm⟩
  | redirected path =>
      exact ⟨pure (.redirect (request.target.location service.host path)),
        (leaving_pure ..).symm, (leaving_pure ..).symm⟩
  | nowhere =>
      exact ⟨pure .nowhere, (leaving_pure ..).symm, (leaving_pure ..).symm⟩

end Shared

variable
  {service : Service (StateM (List RawText))}
  {request : Request}

/-- Making a document calls the compiler at most once. -/
theorem length_calls_make
    (outcome : RawText → CompileResult)
    (policy : CompilePolicy)
    (store : Store)
    (id : Text)
    (form : Form) :
    ((Document.make (recorded outcome) policy store id form).run []).2.length ≤
      1 := by
  unfold Document.make
  cases DocumentDraft.prepare policy store id form with
  | error fault =>
      exact Nat.zero_le 1
  | ok draft =>
      exact Nat.le_refl 1

/-- No request calls the compiler more than once. -/
theorem length_calls_answer
    {outcome : RawText → CompileResult}
    (compiler : service.compile = recorded outcome)
    (request : Request) :
    ((service.answer request).run []).2.length ≤ 1 := by
  unfold answer
  cases Routing.find request.method request.target.place with
  | «to» route =>
      cases route with
      | compile id =>
          have made := length_calls_make outcome service.settings.policy service.store id
          unfold respond compiled
          cases request.form service.supply with
          | error response =>
              exact Nat.zero_le 1
          | ok form =>
              dsimp only
              rw [compiler]
              exact made form
      | _ =>
          exact Nat.zero_le 1
  | _ =>
      exact Nat.zero_le 1

/--
Where hidden templates may not be compiled, the catalogue and requests to compile are
answered alike over stores with the same published rows: with the same response and the
same call of the compiler, or none.
-/
theorem hidden_templates_unseen
    {outcome : RawText → CompileResult}
    {first second : Store}
    (share : first.SharePublished second)
    (hidden : service.settings.allowUnpublished = false)
    (compiler : service.compile = recorded outcome)
    (asks : request.AsksForPublished) :
    ∃ response calls,
      ((service.upon first).answer request).run [] =
          ((response, first), calls) ∧
        ((service.upon second).answer request).run [] =
          ((response, second), calls) ∧
        calls.length ≤ 1 := by
  obtain ⟨reply, fromFirst, fromSecond⟩ :=
    answer_of_sharePublished share hidden asks
  refine ⟨(reply.run []).1, (reply.run []).2, ?_, ?_, ?_⟩
  · rw [fromFirst]
    rfl
  · rw [fromSecond]
    rfl
  · have sameCompiler : (service.upon first).compile = recorded outcome :=
      compiler
    have once := length_calls_answer sameCompiler request
    rw [fromFirst] at once
    exact once

/-- A published template. -/
def greetingRow : TemplateRow where
  id := "a".toList
  title := "Greeting".toList
  description := none
  price := 0
  source := "Hello".toList
  schema := "[]".toList
  version := 1
  isPublished := true

/-- A template that is not published, with a schema that cannot be read. -/
def brokenRow : TemplateRow :=
  { greetingRow with
    id := "b".toList
    schema := "[".toList
    isPublished := false }

/-- A service that compiles published templates only. -/
def ofPublishedOnly : Service (StateM (List RawText)) :=
  { ofOneTemplate with
    settings := { Settings.standard with allowUnpublished := false } }

/-- A request to compile the template that is not published. -/
def brokenRequest : Request where
  method := .post
  target := ⟨"/api/templates/b/compile".toList, []⟩
  body := "\x7b\x7d".toList

/-- A template that is not published is answered as if it were not there. -/
theorem hidden_templates_unseen_ofBroken :
    Store.SharePublished ⟨[greetingRow], []⟩ ⟨[brokenRow, greetingRow], []⟩ ∧
      ∃ response calls,
        ((ofPublishedOnly.upon ⟨[greetingRow], []⟩).answer brokenRequest).run
            [] =
          ((response, ⟨[greetingRow], []⟩), calls) ∧
        ((ofPublishedOnly.upon ⟨[brokenRow, greetingRow], []⟩).answer
            brokenRequest).run [] =
          ((response, ⟨[brokenRow, greetingRow], []⟩), calls) ∧
        calls.length ≤ 1 := by
  have share :
      Store.SharePublished ⟨[greetingRow], []⟩ ⟨[brokenRow, greetingRow], []⟩ := {
    published := by
      decide
    idsDistinct := by
      decide
    otherIdsDistinct := by
      decide }
  have asks : brokenRequest.AsksForPublished := by
    refine .compile "b".toList rfl ?_
    decide +kernel
  exact ⟨share, hidden_templates_unseen share rfl rfl asks⟩

end Service

end ContractTemplates
