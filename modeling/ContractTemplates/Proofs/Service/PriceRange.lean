import ContractTemplates.Proofs.Service.DetailRoute
import ContractTemplates.Proofs.Service.SentResponse
import ContractTemplates.Proofs.Template.CatalogueRows
import ContractTemplates.Proofs.Template.Listing
import ContractTemplates.Proofs.Template.SchemasReadable
import ContractTemplates.Proofs.Template.SyncFits
import ContractTemplates.Proofs.Template.VersionHistory
import ContractTemplates.Proofs.Text.Order
import ContractTemplates.Service.Basic

namespace ContractTemplates

/-!
# The catalogue within a range of prices

A request for the catalogue may bound the prices from below and from above. Every bound
that is accepted is a natural number, of any size, but the store compares 64-bit numbers
only. `Service.prices_listed_iff` says for all stores that syncs have filled, and for all
accepted bounds, that the rows within the range are listed as they should be exactly if
both bounds have 64 bits and no row within the range shows half a character. With a larger
bound the request fails, whatever the prices are.
-/

namespace CatalogueQuery

variable
  {query : CatalogueQuery}
  {price : Int}

/-- Whether a price lies within the bounds of a query, both included. -/
structure Includes (query : CatalogueQuery) (price : Int) : Prop where
  least : ∀ bound ∈ query.minPrice, bound ≤ price
  most : ∀ bound ∈ query.maxPrice, price ≤ bound

/-- Whether the bounds of a query are natural numbers. -/
structure IsNatural (query : CatalogueQuery) : Prop where
  least : ∀ bound ∈ query.minPrice, 0 ≤ bound
  most : ∀ bound ∈ query.maxPrice, 0 ≤ bound

/-- Whether the bounds of a query are small enough to be put to the store. -/
structure IsStorable (query : CatalogueQuery) : Prop where
  least : ∀ bound ∈ query.minPrice, bound < Validation.wordLimit
  most : ∀ bound ∈ query.maxPrice, bound < Validation.wordLimit

theorem matchesPrice_iff
    {row : TemplateRow} :
    Catalogue.matchesPrice query row = true ↔ query.Includes row.price := by
  constructor
  · intro matched
    simp only [Catalogue.matchesPrice, Bool.and_eq_true,
      Option.all_eq_true, decide_eq_true_eq] at matched
    exact ⟨matched.1, matched.2⟩
  · intro included
    simp only [Catalogue.matchesPrice, Bool.and_eq_true,
      Option.all_eq_true, decide_eq_true_eq]
    exact ⟨included.least, included.most⟩

/-- A natural number has 64 bits with its sign exactly if it is below the limit. -/
theorem all_fitsWord_iff
    {bound? : Option Int}
    (natural : ∀ bound ∈ bound?, 0 ≤ bound) :
    bound?.all Validation.fitsWord = true ↔
      ∀ bound ∈ bound?, bound < Validation.wordLimit := by
  cases bound? with
  | none =>
      simp
  | some bound =>
      have reached : -Validation.wordLimit ≤ bound :=
        Int.le_trans (by decide) (natural bound rfl)
      simp [Validation.fitsWord, reached]

end CatalogueQuery

namespace Request

variable {target : Target}

/-- A bound that is accepted is a natural number. -/
theorem natural_of_checkPrice
    {name : Text}
    {bound? : Option Int}
    (accepted : checkPrice target name = .ok bound?) :
    ∀ bound ∈ bound?, 0 ≤ bound := by
  unfold checkPrice at accepted
  split at accepted
  next absent =>
    cases accepted
    simp
  next text given =>
    rw [Checked.within_eq_ok, Checked.within_eq_ok, Checked.map_eq_ok] at accepted
    obtain ⟨value, natural, rfl⟩ := accepted
    obtain ⟨integer, read, kept⟩ := Checked.bind_eq_ok.mp natural
    split at kept
    next negative =>
      cases kept
    next notNegative =>
      cases kept
      rintro bound ⟨⟩
      exact Int.not_lt.mp notNegative

theorem isNatural_of_checkQuery
    {query : CatalogueQuery}
    (accepted : checkQuery target = .ok query) :
    query.IsNatural := by
  obtain ⟨⟨least, most⟩, bounds, rfl⟩ := Checked.map_eq_ok.mp accepted
  obtain ⟨leastAccepted, mostAccepted⟩ := Checked.both_eq_ok.mp bounds
  exact ⟨natural_of_checkPrice leastAccepted, natural_of_checkPrice mostAccepted⟩

end Request

namespace Catalogue

variable
  {query : CatalogueQuery}
  {store : Store}
  {rows : List TemplateRow}

/--
Whether rows are the published templates of a store within the bounds of a query, each of
them once, in the order of their titles.
-/
structure IsListing
    (query : CatalogueQuery)
    (store : Store)
    (rows : List TemplateRow) :
    Prop where
  mem_iff :
    ∀ row, row ∈ rows ↔
      row ∈ store.templates ∧ row.isPublished = true ∧ query.Includes row.price
  idsDistinct : (rows.map TemplateRow.id).Nodup
  ordered : rows.Pairwise fun row later => Text.le row.titleText later.titleText = true

/-- Whether the definitions of all rows that a query asks for are free of halves. -/
def HasTexts (query : CatalogueQuery) (store : Store) : Prop :=
  ∀ row ∈ store.templates,
    row.isPublished = true → query.Includes row.price → row.HasTexts

theorem IsListing.hasTexts_iff
    (listing : IsListing query store rows) :
    (∀ row ∈ rows, row.HasTexts) ↔ HasTexts query store := by
  simp only [HasTexts, listing.mem_iff, and_imp]

/-- Without a search text a query can be put exactly if its bounds are small enough. -/
theorem check_unsearched_iff
    (unsearched : query.search = none)
    (natural : query.IsNatural)
    (published : List TemplateRow) :
    check query published = .ok () ↔ query.IsStorable := by
  have unpatterned : pattern? query = none := by
    simp [pattern?, unsearched]
  have within :
      check query published = .ok () ↔
        query.minPrice.all Validation.fitsWord = true ∧
          query.maxPrice.all Validation.fitsWord = true := by
    cases least : query.minPrice.all Validation.fitsWord <;>
      cases most : query.maxPrice.all Validation.fitsWord <;>
        simp [check, unpatterned, least, most]
  rw [within, CatalogueQuery.all_fitsWord_iff natural.least,
    CatalogueQuery.all_fitsWord_iff natural.most]
  constructor
  · rintro ⟨least, most⟩
    exact ⟨least, most⟩
  · rintro ⟨least, most⟩
    exact ⟨least, most⟩

/-- What the catalogue lists for such a query is a listing, if ids are distinct. -/
theorem isListing_of_list
    (unsearched : query.search = none)
    (distinct : (store.templates.map TemplateRow.id).Nodup)
    (listed : list query store = .ok rows) :
    IsListing query store rows where
  mem_iff row := by
    have unpatterned : matchesSearch query row = true := by
      simp [matchesSearch, pattern?, unsearched]
    simp [mem_of_list_iff listed, unpatterned, CatalogueQuery.matchesPrice_iff]
  idsDistinct := by
    obtain ⟨_, rfl⟩ := list_eq_ok_iff.mp listed
    have chosen :
        ((store.templates.filter (·.isPublished)).filter fun row =>
            matchesSearch query row && matchesPrice query row).Sublist
          store.templates :=
      List.filter_sublist.trans List.filter_sublist
    have sorted := List.mergeSort_perm
      ((store.templates.filter (·.isPublished)).filter fun row =>
        matchesSearch query row && matchesPrice query row)
      fun row later => Text.le row.titleText later.titleText
    rw [byTitle, (sorted.map TemplateRow.id).nodup_iff]
    exact distinct.sublist (chosen.map TemplateRow.id)
  ordered := by
    obtain ⟨_, rfl⟩ := list_eq_ok_iff.mp listed
    have trans (first second third : TemplateRow) :
        Text.le first.titleText second.titleText = true →
          Text.le second.titleText third.titleText = true →
            Text.le first.titleText third.titleText = true :=
      Text.le_trans
    have total (first second : TemplateRow) :
        (Text.le first.titleText second.titleText ||
          Text.le second.titleText first.titleText) = true :=
      Text.le_total first.titleText second.titleText
    exact List.pairwise_mergeSort trans total _

theorem exists_list_of_storable
    (unsearched : query.search = none)
    (natural : query.IsNatural)
    (storable : query.IsStorable)
    (store : Store) :
    ∃ rows, list query store = .ok rows :=
  ⟨_, list_eq_ok_iff.mpr
    ⟨(check_unsearched_iff unsearched natural _).mpr storable, rfl⟩⟩

/-- With a bound that is too large nothing is listed, even if the store is empty. -/
theorem exists_fault_of_not_storable
    (unsearched : query.search = none)
    (natural : query.IsNatural)
    (tooLarge : ¬ query.IsStorable)
    (store : Store) :
    ∃ fault, list query store = .error fault := by
  cases verdict : list query store with
  | ok rows =>
      have checked := (list_eq_ok_iff.mp verdict).1
      exact absurd ((check_unsearched_iff unsearched natural _).mp checked) tooLarge
  | error fault =>
      exact ⟨fault, rfl⟩

end Catalogue

namespace Response

/-- Whether an item of a response shows a row, with the definitions of its schema. -/
def ShowsRow (timeMark : Text) (row : TemplateRow) (item : Json) : Prop :=
  ∃ definitions,
    Schema.read row.schema = .ok definitions ∧
      item = Json.record (row.summaryMembers timeMark definitions)

/-- Whether a response is the list of some rows. -/
def Lists (timeMark : Text) (rows : List TemplateRow) (response : Response) : Prop :=
  ∃ items,
    response = .json 200 (.array items) ∧
      List.Forall₂ (ShowsRow timeMark) rows items

variable
  {timeMark : Text}
  {rows : List TemplateRow}

/-- Rows with written schemas can be shown, one after the other. -/
theorem exists_all_shown
    (written : ∀ row ∈ rows, ∃ definitions, Schema.IsWritten row.schema definitions) :
    ∃ items,
      Checked.all (rows.map (TemplateRow.toSummaryJson timeMark)) = .ok items ∧
        List.Forall₂ (ShowsRow timeMark) rows items := by
  induction rows with
  | nil =>
      exact ⟨[], rfl, .nil⟩
  | cons row rest inductionHypothesis =>
      obtain ⟨definitions, stored⟩ := written row List.mem_cons_self
      obtain ⟨items, shown, each⟩ :=
        inductionHypothesis fun later member =>
          written later (List.mem_cons_of_mem row member)
      have first :
          row.toSummaryJson timeMark =
            .ok (Json.record (row.summaryMembers timeMark definitions)) :=
        Checked.map_eq_ok.mpr ⟨definitions, stored.shown, rfl⟩
      refine ⟨_ :: items, ?_, .cons ⟨definitions, stored.read, rfl⟩ each⟩
      exact Checked.map_eq_ok.mpr ⟨_, Checked.both_eq_ok.mpr ⟨first, shown⟩, rfl⟩

/-- A list of rows with written schemas is the response with these rows. -/
theorem catalogue_lists
    (written : ∀ row ∈ rows, ∃ definitions, Schema.IsWritten row.schema definitions) :
    (catalogue timeMark (.ok rows)).Lists timeMark rows := by
  obtain ⟨items, shown, each⟩ := exists_all_shown written
  refine ⟨items, ?_, each⟩
  simp only [catalogue, shown]
  rfl

/-- The list of rows that fit is a text exactly if no row shows half a character. -/
theorem areText_iff
    {items : List Json}
    (each : List.Forall₂ (ShowsRow timeMark) rows items)
    (fits : ∀ row ∈ rows, row.fits = true) :
    Json.areText items = true ↔ ∀ row ∈ rows, row.HasTexts := by
  induction each with
  | nil =>
      exact iff_of_true rfl nofun
  | cons first others inductionHypothesis =>
      obtain ⟨definitions, read, rfl⟩ := first
      obtain ⟨firstFits, otherFits⟩ := List.forall_mem_cons.mp fits
      rw [Json.areText, Bool.and_eq_true, List.forall_mem_cons,
        inductionHypothesis otherFits, TemplateRow.hasTexts_iff read,
        TemplateRow.isText_summary timeMark definitions firstFits]

/-- The list of rows is sent as it is if no row shows half a character, and else not at all. -/
theorem sent_catalogue
    (written : ∀ row ∈ rows, ∃ definitions, Schema.IsWritten row.schema definitions)
    (fits : ∀ row ∈ rows, row.fits = true) :
    ((∀ row ∈ rows, row.HasTexts) →
        ((catalogue timeMark (.ok rows)).sent).Lists timeMark rows) ∧
      ((¬ ∀ row ∈ rows, row.HasTexts) →
        (catalogue timeMark (.ok rows)).sent = unforeseen) := by
  obtain ⟨items, shown, each⟩ := catalogue_lists written
  rw [shown, ← areText_iff each fits]
  constructor
  · intro texts
    exact ⟨items, sent_of_isText texts, each⟩
  · intro halved
    exact sent_of_not_isText (Bool.eq_false_iff.mpr halved)

theorem not_lists_unforeseen
    (timeMark : Text)
    (rows : List TemplateRow) :
    ¬ unforeseen.Lists timeMark rows := by
  rintro ⟨items, same, each⟩
  cases same

end Response

namespace Service

variable
  {m : Type → Type}
  [Monad m]
  [LawfulMonad m]
  {service : Service m}
  {request : Request}
  {query : CatalogueQuery}

/-- A request for the catalogue with an accepted query is answered from the store. -/
theorem answer_of_accepted
    (reads : request.method = .get)
    (place : request.target.place = Route.base)
    (accepted : Request.checkQuery request.target = .ok query) :
    service.answer request =
      pure
        ((Response.catalogue service.timeMark
            (Catalogue.list query service.store)).sent,
          service.store) := by
  have routed : Routing.find request.method request.target.place = .to .catalogue := by
    rw [reads, place]
    decide
  simp only [answer, routed, respond, listed, accepted, pure_bind]

/--
Where syncs have filled the store, a request for the catalogue without a search text is
answered with the published templates within its bounds, each once and in the order of their
titles, exactly if every bound has 64 bits and the definitions of these templates are free of
halves of characters. Otherwise nothing is listed.
-/
theorem prices_listed_iff
    (service : Service m)
    {syncs : List (Location × Files)}
    (reached : service.store = Store.empty.afterSyncs syncs)
    (reads : request.method = .get)
    (place : request.target.place = Route.base)
    (accepted : Request.checkQuery request.target = .ok query)
    (unsearched : query.search = none) :
    ∃ response,
      service.answer request = pure (response, service.store) ∧
        ((∃ rows,
            Catalogue.IsListing query service.store rows ∧
              response.Lists service.timeMark rows) ↔
          query.IsStorable ∧ Catalogue.HasTexts query service.store) ∧
        (¬ (query.IsStorable ∧ Catalogue.HasTexts query service.store) →
          response = .unforeseen) := by
  have natural := Request.isNatural_of_checkQuery accepted
  have distinct : (service.store.templates.map TemplateRow.id).Nodup := by
    rw [reached]
    exact (Store.VersionHistory.afterSyncs syncs).idsDistinct
  have schemas : service.store.SchemasWritten := by
    rw [reached]
    exact Store.schemasWritten_afterSyncs syncs
  have fits : service.store.Fits := by
    rw [reached]
    exact Store.fits_afterSyncs syncs
  refine ⟨_, answer_of_accepted reads place accepted, ?_⟩
  by_cases storable : query.IsStorable
  · obtain ⟨rows, listed⟩ :=
      Catalogue.exists_list_of_storable unsearched natural storable service.store
    have listing := Catalogue.isListing_of_list unsearched distinct listed
    have stored : ∀ row ∈ rows, row ∈ service.store.templates :=
      fun row member => ((listing.mem_iff row).mp member).1
    obtain ⟨shown, notShown⟩ :=
      Response.sent_catalogue (fun row member => schemas row (stored row member))
        fun row member => fits.of_mem distinct (stored row member)
    rw [listed, ← listing.hasTexts_iff]
    by_cases free : ∀ row ∈ rows, row.HasTexts
    · exact ⟨iff_of_true ⟨rows, listing, shown free⟩ ⟨storable, free⟩,
        absurd ⟨storable, free⟩⟩
    · rw [notShown free]
      refine ⟨iff_of_false ?_ fun both => free both.2, fun _ => rfl⟩
      rintro ⟨others, _, lists⟩
      exact Response.not_lists_unforeseen _ others lists
  · obtain ⟨fault, refused⟩ :=
      Catalogue.exists_fault_of_not_storable unsearched natural storable service.store
    rw [refused]
    refine ⟨iff_of_false ?_ fun both => storable both.1, fun _ => rfl⟩
    rintro ⟨rows, _, lists⟩
    exact Response.not_lists_unforeseen _ rows lists

/-- A directory with a published template in it that is free of charge. -/
def freeTemplate : Files := [
  (["a.typ".toList],
    .file (Text.utf8 "/*---\nid: a\ntitle: A\npublished: true\n---*/\nBody".toList))]

/-- A service that has synced this directory. -/
def ofFreeTemplate : Service Id where
  settings := .standard
  store := Store.empty.afterSyncs [([], freeTemplate)]
  files := freeTemplate
  home := []
  compile _ := .ok []
  supply := .shared
  isInstalled := fun _ => true
  host := "localhost".toList
  timeMark := []

/-- A request for the catalogue with bounds of the price. -/
def priceRequest (bounds : String) : Request where
  method := .get
  target := ⟨Route.base, bounds.toList⟩
  body := []

/-- The service has one template, published, free of charge and without variables. -/
theorem exists_freeTemplate :
    ∃ row,
      ofFreeTemplate.store.templates = [row] ∧
        row.isPublished = true ∧ row.price = 0 ∧ row.HasTexts := by
  have stored :
      ofFreeTemplate.store.templates.map
          (fun row => (row.isPublished, row.price, row.schema)) =
        [(true, 0, "[]".toList)] := by
    unfold ofFreeTemplate Store.afterSyncs Store.afterSync Store.sync freeTemplate
    rw [List.foldl_cons, SourceFile.all_single (by decide)]
    decide +kernel
  obtain ⟨row, only, same⟩ := List.map_eq_singleton_iff.mp stored
  simp only [Prod.mk.injEq] at same
  obtain ⟨published, free, schema⟩ := same
  refine ⟨row, only, published, free, ?_⟩
  intro definitions read
  have none : Schema.read "[]".toList = .ok [] := by
    decide +kernel
  rw [schema, none] at read
  cases read
  exact nofun

/-- Within the largest range of 64 bits the free template is listed. -/
theorem prices_listed_iff_ofFreeTemplate :
    ∃ response rows,
      ofFreeTemplate.answer
          (priceRequest "min_price=0&max_price=9223372036854775807") =
        (response, ofFreeTemplate.store) ∧
        response.Lists [] rows ∧
        ∃ row ∈ rows, row.price = 0 := by
  have accepted :
      Request.checkQuery
          (priceRequest "min_price=0&max_price=9223372036854775807").target =
        .ok ⟨none, some 0, some 9223372036854775807⟩ := by
    decide +kernel
  have storable : CatalogueQuery.IsStorable ⟨none, some 0, some 9223372036854775807⟩ := by
    constructor
    · rintro bound ⟨⟩
      decide
    · rintro bound ⟨⟩
      decide
  obtain ⟨response, answered, listedIff, _⟩ :=
    prices_listed_iff ofFreeTemplate rfl rfl (by decide +kernel) accepted rfl
  obtain ⟨row, only, published, free, texts⟩ := exists_freeTemplate
  have held : row ∈ ofFreeTemplate.store.templates := by
    rw [only]
    exact List.mem_singleton_self row
  have allTexts :
      ∀ other ∈ ofFreeTemplate.store.templates, other.HasTexts := by
    rw [only, List.forall_mem_singleton]
    exact texts
  obtain ⟨rows, listing, lists⟩ :=
    listedIff.mpr ⟨storable, fun other member _ _ => allTexts other member⟩
  refine ⟨response, rows, answered, lists, row, ?_, free⟩
  refine (listing.mem_iff row).mpr ⟨held, published, ?_, ?_⟩
  · rintro bound ⟨⟩
    rw [free]
  · rintro bound ⟨⟩
    rw [free]
    decide

/--
With an upper bound of one more the query is accepted, and the free template lies within it,
but nothing is listed.
-/
theorem freeTemplate_not_listed :
    Request.checkQuery (priceRequest "max_price=9223372036854775808").target =
        .ok ⟨none, none, some 9223372036854775808⟩ ∧
      (∃ row ∈ ofFreeTemplate.store.templates,
        row.isPublished = true ∧
          CatalogueQuery.Includes ⟨none, none, some 9223372036854775808⟩ row.price) ∧
      ofFreeTemplate.answer (priceRequest "max_price=9223372036854775808") =
        (.unforeseen, ofFreeTemplate.store) := by
  have accepted :
      Request.checkQuery (priceRequest "max_price=9223372036854775808").target =
        .ok ⟨none, none, some 9223372036854775808⟩ := by
    decide +kernel
  have tooLarge :
      ¬ CatalogueQuery.IsStorable ⟨none, none, some 9223372036854775808⟩ :=
    fun storable => absurd (storable.most _ rfl) (by decide)
  obtain ⟨row, only, published, free, _⟩ := exists_freeTemplate
  have held : row ∈ ofFreeTemplate.store.templates := by
    rw [only]
    exact List.mem_singleton_self row
  refine ⟨accepted, ⟨row, held, published, nofun, ?_⟩, ?_⟩
  · rintro bound ⟨⟩
    rw [free]
    decide
  · obtain ⟨fault, refused⟩ :=
      Catalogue.exists_fault_of_not_storable rfl
        (Request.isNatural_of_checkQuery accepted) tooLarge ofFreeTemplate.store
    rw [answer_of_accepted rfl (by decide +kernel) accepted, refused]
    rfl

end Service

end ContractTemplates
