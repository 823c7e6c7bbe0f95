import ContractTemplates.Frontmatter
import ContractTemplates.Proofs.Text.Blank
import ContractTemplates.Proofs.Text.Prefix

namespace ContractTemplates

/-!
# The parts of a content with a block

The searches of `Block.find?` give way where they cannot go on. Each of them is described here by
what it finds and by what it prefers: a closer is the first one there is, and the gap behind the
opening mark ends at the last line feed among the leading blanks behind which a closer stands. Both
together make a `Block.Layout` of the content, and there is one preferred layout if there is any.
-/

namespace Block

/-- Whether a closer stands behind a text: a line feed, blanks and the closing mark. -/
def Closes (text before later : Text) : Prop :=
  ∃ margin : Text,
    margin.AllBlank ∧ text = before ++ '\n' :: (margin ++ (closing ++ later))

variable
  {content text before later rest metadata : Text}

theorem closes_cons_cons_iff
    {c d : Char} :
    Closes (c :: text) (d :: before) later ↔ c = d ∧ Closes text before later := by
  simp only [Closes, List.cons_append, List.cons.injEq]
  exact ⟨fun ⟨margin, blank, same, shape⟩ => ⟨same, margin, blank, shape⟩,
    fun ⟨same, margin, blank, shape⟩ => ⟨margin, blank, same, shape⟩⟩

theorem dropWhile_closing
    {margin : Text}
    (blank : margin.AllBlank) :
    (margin ++ (closing ++ later)).dropWhile Text.isBlank = closing ++ later :=
  blank.dropWhile_append (by rintro c ⟨⟩; decide)

theorem afterCloser?_eq_some_iff :
    afterCloser? text = some later ↔ Closes text [] later := by
  constructor
  · intro found
    unfold afterCloser? at found
    split at found
    · next rest =>
        have shape := Text.eq_append_of_after? found
        refine ⟨rest.takeWhile Text.isBlank, Text.allBlank_takeWhile rest, ?_⟩
        rw [← shape, List.takeWhile_append_dropWhile]
        rfl
    · cases found
  · rintro ⟨margin, blank, rfl⟩
    show Text.after? closing ((margin ++ (closing ++ later)).dropWhile Text.isBlank) = _
    rw [dropWhile_closing blank, Text.after?_append]

/-- The search for a closer finds one, and none stands before it. -/
theorem closes_of_upToCloser?
    (found : upToCloser? text = some (before, later)) :
    Closes text before later ∧
      ∀ other further, Closes text other further → before.length ≤ other.length := by
  induction text generalizing before with
  | nil =>
      cases found
  | cons c rest inductionHypothesis =>
      rw [upToCloser?] at found
      split at found
      · next here =>
          cases found
          exact ⟨afterCloser?_eq_some_iff.mp here, fun _ _ _ => Nat.zero_le _⟩
      · next nowhere =>
          obtain ⟨⟨shorter, _⟩, among, same⟩ := Option.map_eq_some_iff.mp found
          cases same
          obtain ⟨closes, first⟩ := inductionHypothesis among
          refine ⟨closes_cons_cons_iff.mpr ⟨rfl, closes⟩, fun other further otherCloses => ?_⟩
          cases other with
          | nil =>
              rw [afterCloser?_eq_some_iff.mpr otherCloses] at nowhere
              cases nowhere
          | cons d other =>
              have later := first other further (closes_cons_cons_iff.mp otherCloses).2
              exact Nat.succ_le_succ later

theorem exists_upToCloser?
    (closes : Closes text before later) :
    ∃ found, upToCloser? text = some found := by
  induction text generalizing before with
  | nil =>
      obtain ⟨_, _, shape⟩ := closes
      simp at shape
  | cons c rest inductionHypothesis =>
      rw [upToCloser?]
      split
      · exact ⟨_, rfl⟩
      · next nowhere =>
          cases before with
          | nil =>
              rw [afterCloser?_eq_some_iff.mpr closes] at nowhere
              cases nowhere
          | cons d before =>
              obtain ⟨found, among⟩ := inductionHypothesis (closes_cons_cons_iff.mp closes).2
              exact ⟨_, congrArg (Option.map _) among⟩

/-- Whether a text is blanks, a line feed and something after which a closer follows. -/
def Opens (text gap inner : Text) : Prop :=
  gap.AllBlank ∧ text = gap ++ '\n' :: inner ∧ ∃ before later, Closes inner before later

variable
  {gap inner : Text}

theorem opens_cons_cons_iff
    {c d : Char} :
    Opens (c :: text) (d :: gap) inner ↔ c = d ∧ Text.isBlank c = true ∧ Opens text gap inner := by
  simp only [Opens, Text.allBlank_cons_iff, List.cons_append, List.cons.injEq]
  constructor
  · rintro ⟨⟨blank, others⟩, ⟨rfl, shape⟩, closes⟩
    exact ⟨rfl, blank, others, shape, closes⟩
  · rintro ⟨rfl, blank, others, shape, closes⟩
    exact ⟨⟨blank, others⟩, ⟨rfl, shape⟩, closes⟩

theorem opens_nil_iff :
    Opens text [] inner ↔ text = '\n' :: inner ∧ ∃ before later, Closes inner before later :=
  and_iff_right Text.allBlank_nil

theorem exists_afterOpening?
    (opens : Opens text gap inner) :
    ∃ found, afterOpening? text = some found := by
  induction gap generalizing text with
  | nil =>
      obtain ⟨rfl, _, _, closes⟩ := opens_nil_iff.mp opens
      obtain ⟨found, closer⟩ := exists_upToCloser? closes
      rw [afterOpening?, if_pos (by decide), if_pos rfl, closer]
      split <;>
        exact ⟨_, rfl⟩
  | cons c gap inductionHypothesis =>
      have shape := opens.2.1
      rw [shape, List.cons_append] at opens ⊢
      obtain ⟨_, blank, later⟩ := opens_cons_cons_iff.mp opens
      obtain ⟨found, further⟩ := inductionHypothesis later
      rw [afterOpening?, if_pos blank, further]
      exact ⟨found, rfl⟩

/-- The search goes on from the last line feed among the leading blanks that can be completed. -/
theorem opens_of_afterOpening?
    (found : afterOpening? text = some (metadata, later)) :
    ∃ gap inner,
      Opens text gap inner ∧
        upToCloser? inner = some (metadata, later) ∧
        ∀ other further, Opens text other further → other.length ≤ gap.length := by
  induction text with
  | nil =>
      cases found
  | cons c rest inductionHypothesis =>
      rw [afterOpening?] at found
      split at found
      · next blank =>
          split at found
          · next among =>
              obtain ⟨gap, inner, opens, closer, last⟩ := inductionHypothesis (among.trans found)
              refine ⟨c :: gap, inner, opens_cons_cons_iff.mpr ⟨rfl, blank, opens⟩, closer, ?_⟩
              rintro (_ | ⟨d, other⟩) further otherOpens
              · exact Nat.zero_le _
              · have later := last other further (opens_cons_cons_iff.mp otherOpens).2.2
                exact Nat.succ_le_succ later
          · next nowhere =>
              split at found
              · next lineFeed =>
                  subst lineFeed
                  have closes := (closes_of_upToCloser? found).1
                  refine ⟨[], rest, opens_nil_iff.mpr ⟨rfl, _, _, closes⟩, found, ?_⟩
                  rintro (_ | ⟨d, other⟩) further otherOpens
                  · exact Nat.le_refl _
                  · obtain ⟨_, there⟩ :=
                      exists_afterOpening? (opens_cons_cons_iff.mp otherOpens).2.2
                    rw [there] at nowhere
                    cases nowhere
              · cases found
      · cases found

/-- The parts of a content that has a block. -/
structure Layout where
  /-- The blanks before the opening mark. -/
  indent : Text
  /-- The blanks between the opening mark and the line feed before the metadata. -/
  gap : Text
  metadata : Text
  /-- The blanks between the line feed after the metadata and the closing mark. -/
  margin : Text
  /-- What follows the closing mark. -/
  rest : Text

namespace Layout

/-- The content up to the end of the metadata. -/
def start (layout : Layout) : Text :=
  layout.indent ++ (opening ++ (layout.gap ++ '\n' :: layout.metadata))

/-- The content from the line feed after the metadata. -/
def close (layout : Layout) : Text :=
  '\n' :: (layout.margin ++ (closing ++ layout.rest))

/-- Whether a content consists of these parts. -/
structure Fits (layout : Layout) (content : Text) : Prop where
  indent : layout.indent.AllBlank
  gap : layout.gap.AllBlank
  margin : layout.margin.AllBlank
  content : content = layout.start ++ layout.close

/-- Whether the gap is as long as it can be and the metadata, for this gap, as short as they can. -/
structure IsPreferred (layout : Layout) (content : Text) : Prop where
  fits : layout.Fits content
  longest : ∀ other : Layout, other.Fits content → other.gap.length ≤ layout.gap.length
  shortest :
    ∀ other : Layout,
      other.Fits content →
      other.gap = layout.gap →
      layout.metadata.length ≤ other.metadata.length

end Layout

/-- The text after the opening mark, if a content begins with blanks and this mark. -/
theorem after?_opening_eq_some_iff :
    Text.after? opening (content.dropWhile Text.isBlank) = some rest ↔
      ∃ indent : Text, indent.AllBlank ∧ content = indent ++ (opening ++ rest) := by
  constructor
  · intro found
    refine ⟨content.takeWhile Text.isBlank, Text.allBlank_takeWhile content, ?_⟩
    rw [← Text.eq_append_of_after? found, List.takeWhile_append_dropWhile]
  · rintro ⟨indent, blank, rfl⟩
    rw [blank.dropWhile_append (by rintro c ⟨⟩; decide), Text.after?_append]

theorem Layout.Fits.eq_opening
    {layout : Layout}
    (fits : layout.Fits content) :
    content =
      layout.indent ++ (opening ++ (layout.gap ++ '\n' :: (layout.metadata ++ layout.close))) := by
  simp [fits.content, start]

theorem Layout.Fits.after?_opening
    {layout : Layout}
    (fits : layout.Fits content) :
    Text.after? opening (content.dropWhile Text.isBlank) =
      some (layout.gap ++ '\n' :: (layout.metadata ++ layout.close)) :=
  after?_opening_eq_some_iff.mpr ⟨layout.indent, fits.indent, fits.eq_opening⟩

theorem Layout.Fits.opens
    {layout : Layout}
    (fits : layout.Fits content)
    (after : Text.after? opening (content.dropWhile Text.isBlank) = some rest) :
    Opens rest layout.gap (layout.metadata ++ layout.close) ∧
      Closes (layout.metadata ++ layout.close) layout.metadata layout.rest := by
  have closes : Closes (layout.metadata ++ layout.close) layout.metadata layout.rest :=
    ⟨layout.margin, fits.margin, rfl⟩
  have shape := Option.some.inj (fits.after?_opening.symm.trans after)
  exact ⟨⟨fits.gap, shape.symm, _, _, closes⟩, closes⟩

/-- A block is found with the metadata and the rest of a preferred layout. -/
theorem exists_layout_of_find?
    {block : Block}
    (found : find? content = some block) :
    ∃ layout : Layout,
      layout.IsPreferred content ∧ block = ⟨layout.metadata, bodyAfter layout.rest⟩ := by
  obtain ⟨rest, after, ⟨⟨metadata, later⟩, split, same⟩⟩ : ∃ rest,
      Text.after? opening (content.dropWhile Text.isBlank) = some rest ∧
        ∃ parts, afterOpening? rest = some parts ∧
          some (⟨parts.1, bodyAfter parts.2⟩ : Block) = some block := by
    simpa [find?, Option.bind_eq_some_iff] using found
  cases same
  obtain ⟨indent, indentBlank, contentShape⟩ := after?_opening_eq_some_iff.mp after
  obtain ⟨gap, inner, opens, closer, last⟩ := opens_of_afterOpening? split
  obtain ⟨⟨margin, marginBlank, innerShape⟩, first⟩ := closes_of_upToCloser? closer
  obtain ⟨gapBlank, restShape, _⟩ := opens
  refine ⟨⟨indent, gap, metadata, margin, later⟩, ⟨⟨indentBlank, gapBlank, marginBlank, ?_⟩,
    fun other fits => ?_, fun other fits sameGap => ?_⟩, rfl⟩
  · rw [contentShape, restShape, innerShape]
    simp [Layout.start, Layout.close]
  · exact last _ _ (fits.opens after).1
  · obtain ⟨⟨_, otherShape, _⟩, closes⟩ := fits.opens after
    rw [restShape, sameGap] at otherShape
    obtain rfl := (List.cons.inj (List.append_cancel_left otherShape)).2
    exact first _ _ closes

theorem Layout.Fits.exists_block
    {layout : Layout}
    (fits : layout.Fits content) :
    ∃ block, find? content = some block := by
  have after := fits.after?_opening
  obtain ⟨_, split⟩ := exists_afterOpening? (fits.opens after).1
  simp [find?, after, split]

/-- A content has a block exactly if it consists of the parts of one. -/
theorem exists_block_iff :
    (∃ block, find? content = some block) ↔ ∃ layout : Layout, layout.Fits content := by
  constructor
  · rintro ⟨block, found⟩
    obtain ⟨layout, preferred, _⟩ := exists_layout_of_find? found
    exact ⟨layout, preferred.fits⟩
  · rintro ⟨layout, fits⟩
    exact fits.exists_block

/-- Gap and metadata decide the other parts of a content. -/
theorem Layout.Fits.eq_of_gap_of_metadata
    {layout other : Layout}
    (fits : layout.Fits content)
    (otherFits : other.Fits content)
    (gap : other.gap.length = layout.gap.length)
    (metadata : other.metadata.length = layout.metadata.length) :
    other = layout := by
  have inner := Option.some.inj (otherFits.after?_opening.symm.trans fits.after?_opening)
  have whole := otherFits.eq_opening.symm.trans fits.eq_opening
  rw [inner] at whole
  have sameIndent := List.append_cancel_right whole
  obtain ⟨sameGap, later⟩ := List.append_inj inner gap
  obtain ⟨sameMetadata, closes⟩ := List.append_inj (List.cons.inj later).2 metadata
  have marks := (List.cons.inj closes).2
  have sameRest : closing ++ other.rest = closing ++ layout.rest := by
    rw [← dropWhile_closing otherFits.margin, marks, dropWhile_closing fits.margin]
  rw [sameRest] at marks
  have sameMargin := List.append_cancel_right marks
  obtain ⟨indent, _, _, _, _⟩ := layout
  obtain ⟨_, _, _, _, _⟩ := other
  cases sameIndent
  cases sameGap
  cases sameMetadata
  cases sameMargin
  cases List.append_cancel_left sameRest
  rfl

theorem Layout.IsPreferred.unique
    {layout other : Layout}
    (preferred : layout.IsPreferred content)
    (otherPreferred : other.IsPreferred content) :
    other = layout := by
  have gap :=
    Nat.le_antisymm (preferred.longest other otherPreferred.fits)
      (otherPreferred.longest layout preferred.fits)
  have inner :=
    Option.some.inj
      (otherPreferred.fits.after?_opening.symm.trans preferred.fits.after?_opening)
  have sameGap := (List.append_inj inner gap).1
  have metadata :=
    Nat.le_antisymm (otherPreferred.shortest layout preferred.fits sameGap.symm)
      (preferred.shortest other otherPreferred.fits sameGap)
  exact preferred.fits.eq_of_gap_of_metadata otherPreferred.fits gap metadata

theorem Layout.IsPreferred.find?_eq
    {layout : Layout}
    (preferred : layout.IsPreferred content) :
    find? content = some ⟨layout.metadata, bodyAfter layout.rest⟩ := by
  obtain ⟨block, found⟩ := preferred.fits.exists_block
  obtain ⟨other, otherPreferred, rfl⟩ := exists_layout_of_find? found
  rw [found, preferred.unique otherPreferred]

/--
Whether a text is what is left of another one without the spaces and tabs in front and at most one
line feed after them.
-/
inductive IsBodyOf (rest : Text) : Text → Prop where
  | nextLine
      {blanks body : Text}
      (line : ∀ c ∈ blanks, Text.isLineBlank c = true)
      (shape : rest = blanks ++ '\n' :: body) :
      IsBodyOf rest body
  | sameLine
      {blanks body : Text}
      (line : ∀ c ∈ blanks, Text.isLineBlank c = true)
      (visible : ∀ c ∈ body.head?, Text.isLineBlank c = false ∧ c ≠ '\n')
      (shape : rest = blanks ++ body) :
      IsBodyOf rest body

theorem isBodyOf_bodyAfter
    (rest : Text) :
    IsBodyOf rest (bodyAfter rest) := by
  have line : ∀ c ∈ rest.takeWhile Text.isLineBlank, Text.isLineBlank c = true :=
    fun _ member => List.mem_takeWhile_imp member
  have shape := (List.takeWhile_append_dropWhile (p := Text.isLineBlank) (l := rest)).symm
  unfold bodyAfter
  split
  · next body begins =>
      rw [begins] at shape
      exact .nextLine line shape
  · next noLineFeed =>
      refine .sameLine line (fun c first => ⟨?_, ?_⟩) shape
      · have stops := List.head?_dropWhile_not Text.isLineBlank rest
        rwa [first] at stops
      · rintro rfl
        obtain ⟨body, begins⟩ := List.head?_eq_some_iff.mp first
        exact noLineFeed body begins

theorem IsBodyOf.isSuffix
    {body : Text}
    (isBody : IsBodyOf rest body) :
    body <:+ rest := by
  cases isBody with
  | @nextLine blanks _ _ shape =>
      exact ⟨blanks ++ ['\n'], by simp [shape]⟩
  | sameLine _ _ shape =>
      exact ⟨_, shape.symm⟩

theorem Layout.Fits.rest_isSuffix
    {layout : Layout}
    (fits : layout.Fits content) :
    layout.rest <:+ content := by
  refine ⟨layout.start ++ '\n' :: (layout.margin ++ closing), ?_⟩
  simp [fits.content, close]

end Block

namespace Frontmatter

open Block

variable
  {content : Text}

theorem read_of_find?_eq_none
    (missing : find? content = none) :
    read content = .ok ⟨[], content⟩ := by
  unfold read
  rw [missing]

theorem read_of_find?_eq_some
    {metadata body : Text}
    (found : find? content = some ⟨metadata, body⟩) :
    read content = (do
      let datum ← (Yaml.load metadata).mapError .yaml
      let entries ← entriesOf datum
      .ok ⟨entries, body⟩) := by
  unfold read
  rw [found]

/--
A content has a block exactly if it consists of the parts of one; any other content is body as a
whole. Of the ways to part a content that has a block one is preferred, by the longest gap and then
by the shortest metadata. Its metadata are what is loaded, and the body is the end of the content
behind its closing mark, without the spaces and tabs in front and at most one line feed.
-/
theorem read_layout
    (content : Text) :
    ((∃ block, find? content = some block) ↔ ∃ layout : Layout, layout.Fits content) ∧
      ((¬ ∃ layout : Layout, layout.Fits content) → read content = .ok ⟨[], content⟩) ∧
      ((∃ layout : Layout, layout.Fits content) →
        ∃! layout : Layout, layout.IsPreferred content) ∧
      ∀ layout : Layout,
        layout.IsPreferred content →
        ∃ body,
          IsBodyOf layout.rest body ∧
            body <:+ content ∧
            find? content = some ⟨layout.metadata, body⟩ ∧
            read content = (do
              let datum ← (Yaml.load layout.metadata).mapError .yaml
              let entries ← entriesOf datum
              .ok ⟨entries, body⟩) := by
  refine ⟨exists_block_iff, fun unparted => ?_, fun parted => ?_, fun layout preferred => ?_⟩
  · have missing := Option.eq_none_iff_forall_ne_some.mpr
      (not_exists.mp (mt exists_block_iff.mp unparted))
    exact read_of_find?_eq_none missing
  · obtain ⟨block, found⟩ := exists_block_iff.mpr parted
    obtain ⟨layout, preferred, _⟩ := exists_layout_of_find? found
    exact ⟨layout, preferred, fun _ => preferred.unique⟩
  · have isBody := isBodyOf_bodyAfter layout.rest
    have found := preferred.find?_eq
    exact ⟨_, isBody, isBody.isSuffix.trans preferred.fits.rest_isSuffix, found,
      read_of_find?_eq_some found⟩

/-- Only a gap that leaves a line feed to the closing mark can be completed. -/
theorem read_layout_ofBlankLines :
    ∃ layout : Layout, ∃ body,
      layout.IsPreferred "\n/*--- \n\n  ---*/\t\n\nBody".toList ∧
        layout.metadata = [] ∧
        IsBodyOf layout.rest body ∧
        body = "\nBody".toList := by
  have parted : ∃ layout : Layout, layout.Fits "\n/*--- \n\n  ---*/\t\n\nBody".toList := by
    refine ⟨⟨"\n".toList, " ".toList, [], "  ".toList, "\t\n\nBody".toList⟩, ?_, ?_, ?_, rfl⟩ <;>
      decide
  obtain ⟨_, _, unique, taken⟩ := read_layout "\n/*--- \n\n  ---*/\t\n\nBody".toList
  obtain ⟨layout, preferred, _⟩ := unique parted
  obtain ⟨body, isBody, _, found, _⟩ := taken layout preferred
  have block :
      find? "\n/*--- \n\n  ---*/\t\n\nBody".toList = some ⟨[], "\nBody".toList⟩ := by
    decide
  obtain ⟨metadata, rest⟩ := Block.mk.inj (Option.some.inj (found.symm.trans block))
  exact ⟨layout, body, preferred, metadata, isBody, rest⟩

end Frontmatter

end ContractTemplates
