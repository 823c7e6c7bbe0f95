import ContractTemplates.Proofs.Service.CompileOutcome
import ContractTemplates.Proofs.Service.DetailRoute
import ContractTemplates.Proofs.Service.SpelledPath
import ContractTemplates.Proofs.Template.VersionHistory

namespace ContractTemplates

/-!
# Which templates can be fetched

A sync stores a template under any id of its manifest, but only an id that is
addressable has a place of its own. There the record is always found, because every stored
schema was written by a sync, but it cannot be sent if a definition has half a character.
`Service.record_fetched_iff` says of every stored template, and of every spelling of its id
on a path, whether the record is fetched.
-/

namespace Response

/-- The response with the full record of a row whose schema says these definitions. -/
def record
    (timeMark : Text)
    (row : TemplateRow)
    (definitions : List Definition) :
    Response :=
  .json 200
    (Json.record
      (row.summaryMembers timeMark definitions ++ row.detailMembers timeMark))

/-- Whether a response is the full record of no row at all. -/
def IsNoRecord (response : Response) : Prop :=
  ∀ timeMark row definitions, response ≠ .record timeMark row definitions

theorem isNoRecord_of_status
    {response : Response}
    (other : response.status ≠ 200) :
    response.IsNoRecord := by
  rintro timeMark row definitions rfl
  exact other rfl

theorem isNoRecord_unforeseen :
    unforeseen.IsNoRecord :=
  isNoRecord_of_status (show 500 ≠ 200 by decide)

/-- A response that is no record is none when it is sent. -/
theorem IsNoRecord.sent
    {response : Response}
    (none : response.IsNoRecord) :
    response.sent.IsNoRecord := by
  unfold Response.sent
  split
  · split
    · exact none
    · exact isNoRecord_unforeseen
  · exact none

/-- A row with a written schema is shown with its definitions. -/
theorem template_eq_record
    {row : TemplateRow}
    {definitions : List Definition}
    (stored : Schema.IsWritten row.schema definitions)
    (timeMark : Text) :
    template timeMark (some row) = .record timeMark row definitions := by
  have shown : row.shownVariables = .ok definitions :=
    stored.shown
  unfold template TemplateRow.toDetailJson
  dsimp only
  rw [shown]
  rfl

/-- The catalogue is a list, if it is shown at all. -/
theorem isNoRecord_catalogue
    (timeMark : Text)
    (rows : Except StoreFault (List TemplateRow)) :
    (catalogue timeMark rows).IsNoRecord := by
  cases rows with
  | error fault =>
      exact isNoRecord_unforeseen
  | ok rows =>
      intro otherMark row definitions
      unfold catalogue
      dsimp only
      cases Checked.all (rows.map (TemplateRow.toSummaryJson timeMark)) with
      | error issues =>
          exact nofun
      | ok items =>
          exact nofun

end Response

namespace Service

variable
  {m : Type → Type}
  {service : Service m}

theorem isNoRecord_listed
    (target : Target) :
    (service.listed target).IsNoRecord := by
  unfold listed
  cases Request.checkQuery target with
  | error issues =>
      exact Response.isNoRecord_of_status (show 422 ≠ 200 by decide)
  | ok query =>
      exact Response.isNoRecord_catalogue _ _

variable
  [Monad m]
  [LawfulMonad m]
  {request : Request}
  {id : Text}

/-- A request to read where no template has its place is answered with no record. -/
theorem answer_of_not_isAddressable
    (unreachable : ¬ Route.IsAddressable id)
    (reads : request.method = .get)
    (place : request.target.place = Route.base ++ id) :
    ∃ response,
      service.answer request = pure (response, service.store) ∧
        response.IsNoRecord := by
  unfold answer
  rw [reads, place]
  rcases Route.not_isAddressable_iff.mp unreachable with unnamed | slash
  · rw [Routing.find_catalogue unnamed]
    simp only [respond, pure_bind]
    exact ⟨_, rfl, (isNoRecord_listed request.target).sent⟩
  · match found : Routing.find .get (Route.base ++ id) with
    | .to route =>
        exact absurd found (Routing.find_ne_to slash route)
    | .wrongMethod =>
        exact ⟨_, rfl, Response.isNoRecord_of_status (show 405 ≠ 200 by decide)⟩
    | .redirected path =>
        exact ⟨_, rfl, Response.isNoRecord_of_status (show 307 ≠ 200 by decide)⟩
    | .nowhere =>
        exact ⟨_, rfl, Response.isNoRecord_of_status (show 404 ≠ 200 by decide)⟩

/-- A request to read at the place of a stored template is answered with its record. -/
theorem answer_of_isAddressable
    {row : TemplateRow}
    {definitions : List Definition}
    (found : service.store.find? id = some row)
    (stored : Schema.IsWritten row.schema definitions)
    (addressable : Route.IsAddressable id)
    (reads : request.method = .get)
    (place : request.target.place = Route.base ++ id) :
    service.answer request =
      pure ((Response.record service.timeMark row definitions).sent, service.store) := by
  unfold answer
  rw [reads, place, Routing.find_detail addressable]
  simp only [respond, pure_bind]
  rw [found, Response.template_eq_record stored]

/--
A template that syncs have stored is fetched by its id exactly if the id is addressable
and the definitions of the template are free of halves of characters. For halves the answer
is an internal error.
-/
theorem record_fetched_iff
    (service : Service m)
    {syncs : List (Location × Files)}
    (reached : service.store = Store.empty.afterSyncs syncs)
    {row : TemplateRow}
    (held : row ∈ service.store.templates)
    {written : Text}
    (spelled : Target.Spells written (Text.utf8 row.id))
    (query body : Text) :
    ∃ response definitions,
      service.answer ⟨.get, ⟨Route.base ++ written, query⟩, body⟩ =
          pure (response, service.store) ∧
        Schema.read row.schema = .ok definitions ∧
        (response = .record service.timeMark row definitions ↔
          Route.IsAddressable row.id ∧ row.HasTexts) ∧
        (Route.IsAddressable row.id → ¬ row.HasTexts → response = .unforeseen) := by
  have schemas : service.store.SchemasWritten := by
    rw [reached]
    exact Store.schemasWritten_afterSyncs syncs
  obtain ⟨definitions, stored⟩ := schemas row held
  have distinct : (service.store.templates.map TemplateRow.id).Nodup := by
    rw [reached]
    exact (Store.VersionHistory.afterSyncs syncs).idsDistinct
  have found := Store.find?_of_mem distinct held
  have fits : service.store.Fits := by
    rw [reached]
    exact Store.fits_afterSyncs syncs
  have texts := TemplateRow.hasTexts_iff stored.read
  have detail := TemplateRow.isText_detail service.timeMark definitions (fits row.id row found)
  have place := Target.place_of_spells spelled query
  by_cases addressable : Route.IsAddressable row.id
  · refine ⟨_, definitions, answer_of_isAddressable found stored addressable rfl place,
      stored.read, ?_⟩
    unfold Response.record
    by_cases free : row.HasTexts
    · rw [Response.sent_of_isText (detail.trans (texts.mp free))]
      exact ⟨iff_of_true rfl ⟨addressable, free⟩, fun _ halved => absurd free halved⟩
    · rw [Response.sent_of_not_isText (detail.trans (Bool.eq_false_iff.mpr (free ∘ texts.mpr)))]
      exact ⟨iff_of_false nofun fun both => free both.2, fun _ _ => rfl⟩
  · obtain ⟨response, answered, noRecord⟩ :
        ∃ response,
          service.answer ⟨.get, ⟨Route.base ++ written, query⟩, body⟩ =
              pure (response, service.store) ∧
            response.IsNoRecord :=
      answer_of_not_isAddressable addressable rfl place
    exact ⟨response, definitions, answered, stored.read,
      iff_of_false (noRecord _ _ _) fun both => addressable both.1, fun reachable =>
        absurd reachable addressable⟩

/-- The template `a` is fetched by its id, spelled by the code of its letter. -/
theorem record_fetched_iff_ofOneTemplate :
    ∃ row definitions,
      row ∈ ofOneTemplate.store.templates ∧
        row.id = "a".toList ∧
        ofOneTemplate.answer
            ⟨.get, ⟨Route.base ++ ['%', '6', '1'], []⟩, []⟩ =
          pure (.record [] row definitions, ofOneTemplate.store) := by
  have stored :
      ofOneTemplate.store.templates.map (fun row => (row.id, row.schema)) =
        [("a".toList, "[]".toList)] := by
    unfold ofOneTemplate Store.afterSyncs Store.afterSync Store.sync
      SourceFile.oneTemplate
    rw [List.foldl_cons, SourceFile.all_single (by decide)]
    decide +kernel
  obtain ⟨row, only, same⟩ := List.map_eq_singleton_iff.mp stored
  obtain ⟨sameId, schema⟩ := Prod.mk.inj same
  have held : row ∈ ofOneTemplate.store.templates := by
    rw [only]
    exact List.mem_singleton_self row
  have texts : row.HasTexts := by
    have none : Schema.read "[]".toList = .ok [] := by
      decide +kernel
    rw [← schema] at none
    exact (TemplateRow.hasTexts_iff none).mpr rfl
  have code : Target.Spells ['%', '6', '1'] [UInt8.ofNat (6 * 16 + 1)] :=
    .code rfl rfl .nil
  have spelled : Target.Spells ['%', '6', '1'] (Text.utf8 row.id) := by
    rw [sameId]
    exact code
  have addressable : Route.IsAddressable row.id := by
    rw [sameId]
    exact ⟨by decide, by decide, by decide⟩
  obtain ⟨response, definitions, answered, _, isRecord, _⟩ :=
    record_fetched_iff ofOneTemplate rfl held spelled [] []
  refine ⟨row, definitions, held, sameId, ?_⟩
  rw [answered, isRecord.mpr ⟨addressable, texts⟩]
  rfl

/-- A directory with a template in it whose id has a slash. -/
def slashedTemplate : Files := [
  (["a.typ".toList],
    .file (Text.utf8 "/*---\nid: a/b\ntitle: A\n---*/\nBody".toList))]

/-- A service that has synced this directory. -/
def ofSlashedTemplate : Service Id where
  settings := .standard
  store := Store.empty.afterSyncs [([], slashedTemplate)]
  files := slashedTemplate
  home := []
  compile _ := .ok []
  supply := .shared
  isInstalled := fun _ => true
  host := "localhost".toList
  timeMark := []

/-- The template `a/b` is stored, but where its id should lead there is nothing. -/
theorem slashedTemplate_not_fetched :
    ofSlashedTemplate.store.templates.map TemplateRow.id = ["a/b".toList] ∧
      Target.Spells ['a', '%', '2', 'F', 'b'] (Text.utf8 "a/b".toList) ∧
      ofSlashedTemplate.answer
          ⟨.get, ⟨Route.base ++ ['a', '%', '2', 'F', 'b'], []⟩, []⟩ =
        (.nowhere, ofSlashedTemplate.store) ∧
      Response.nowhere.IsNoRecord := by
  have stored :
      ofSlashedTemplate.store.templates.map TemplateRow.id =
        ["a/b".toList] := by
    unfold ofSlashedTemplate Store.afterSyncs Store.afterSync Store.sync
      slashedTemplate
    rw [List.foldl_cons, SourceFile.all_single (by decide)]
    decide +kernel
  have characters :
      Target.Spells ['a', '%', '2', 'F', 'b']
        (Text.utf8Character 'a' ++
          UInt8.ofNat (2 * 16 + 15) :: (Text.utf8Character 'b' ++ [])) :=
    .plain (by decide) (by decide)
      (.code rfl rfl (.plain (by decide) (by decide) .nil))
  have spelled : Target.Spells _ (Text.utf8 "a/b".toList) :=
    characters
  have place :
      Target.place ⟨Route.base ++ ['a', '%', '2', 'F', 'b'], []⟩ =
        Route.base ++ "a/b".toList :=
    Target.place_of_spells spelled []
  have nowhere :
      Routing.find .get (Route.base ++ "a/b".toList) = .nowhere := by
    decide
  refine ⟨stored, spelled, ?_, Response.isNoRecord_of_status (show 404 ≠ 200 by decide)⟩
  unfold answer
  rw [place, nowhere]
  rfl

end Service

end ContractTemplates
