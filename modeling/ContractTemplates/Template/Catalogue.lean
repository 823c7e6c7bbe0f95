import ContractTemplates.Template.Store
import ContractTemplates.Text.Lowercase
import ContractTemplates.Text.Utf8

namespace ContractTemplates

/-!
# The catalogue

The catalogue lists the published templates in the order of their titles, and
templates of the same title in the order in which they were added. It can be
narrowed down to a search text in the title or the description and to a range of
prices with both ends included.

The search text is lowered as a whole. In titles and descriptions only the
letters A to Z are lowered, a percent sign of the search text stands for any
text, and an underscore for any character.
-/

/-- What is asked of the catalogue. -/
structure CatalogueQuery where
  search : Option Text
  minPrice : Option Int
  maxPrice : Option Int
  deriving DecidableEq, Repr

namespace Catalogue

/-- Whether a text has the form of a pattern, with capitals A to Z lowered on both sides. -/
def isLike : (pattern text : Text) → Bool
  | [], text => text.isEmpty
  | '%' :: '%' :: pattern, text => isLike ('%' :: pattern) text
  | c :: pattern, text =>
      if c = '%' then
        (Text.suffixes text).any (isLike pattern)
      else
        match text with
        | [] => false
        | d :: rest =>
            (c = '_' || Text.foldAscii c = Text.foldAscii d) &&
              isLike pattern rest

/-- The text up to the character NUL, where matching ends. -/
def untilNul (text : Text) : Text :=
  (Text.cut (Char.ofNat 0) text).1

/-- The pattern for a search text anywhere. -/
def searchPattern (search : Text) : Text :=
  '%' :: search.lowercase ++ ['%']

/-- Whether a text contains what the pattern describes. -/
def isFoundIn (pattern text : Text) : Bool :=
  isLike (untilNul pattern) (untilNul (text.map Text.foldAscii))

/-- The pattern of a query; an empty search text asks for nothing. -/
def pattern? (query : CatalogueQuery) : Option Text :=
  (query.search.filter (· ≠ [])).map searchPattern

/-- Whether the title or the description contains what is searched for. -/
def matchesSearch (query : CatalogueQuery) (row : TemplateRow) : Bool :=
  (pattern? query).all fun pattern =>
    isFoundIn pattern row.titleText || isFoundIn pattern row.descriptionText

/-- Whether the price lies in the range that is asked for. -/
def matchesPrice (query : CatalogueQuery) (row : TemplateRow) : Bool :=
  query.minPrice.all (· ≤ row.price) && query.maxPrice.all (row.price ≤ ·)

/-- The most bytes of a pattern. -/
def patternLimit : Nat :=
  50000

/-- Whether a query can be put to the store. -/
def check (query : CatalogueQuery) (published : List TemplateRow) :
    Except StoreFault Unit :=
  if ¬ query.minPrice.all Validation.fitsWord ∨
      ¬ query.maxPrice.all Validation.fitsWord then
    .error .tooLarge
  else if published ≠ [] ∧
      (pattern? query).any fun pattern =>
        patternLimit < pattern.utf8.length then
    .error .patternTooLong
  else
    .ok ()

/-- Rows in the order of their titles. -/
def byTitle (rows : List TemplateRow) : List TemplateRow :=
  rows.mergeSort fun a b => Text.le a.titleText b.titleText

/-- The published templates that a query asks for. -/
def list (query : CatalogueQuery) (store : Store) :
    Except StoreFault (List TemplateRow) := do
  let published := store.templates.filter (·.isPublished)
  check query published
  .ok
    (byTitle
      (published.filter fun row =>
        matchesSearch query row && matchesPrice query row))

end Catalogue

end ContractTemplates
