import ContractTemplates.Proofs.Frontmatter.Layout

namespace ContractTemplates

/-!
# Where metadata end

A block is opened by a line with the opening mark and closed by a line that begins with the closing
mark. The closing mark needs a line feed in front of it that is not the one of the opening line, and
the blanks behind the opening mark reach as far as they can. So if nothing but blanks stands before
a closing line, the opening takes all of them, and this line is metadata if a further closing line
can be found. `Block.ends_before_closing_line_iff` says that this is the only way in which metadata
run on beyond a closing line.
-/

namespace Block

/-- Whether a text is blanks and, on the last of its lines, the opening mark and blanks. -/
def IsOpening (text : Text) : Prop :=
  ∃ indent trail : Text,
    indent.AllBlank ∧ trail.AllBlank ∧ '\n' ∉ trail ∧
      text = indent ++ (opening ++ (trail ++ ['\n']))

/-- Whether a text is whole lines, each with its line feed. -/
def IsLines (text : Text) : Prop :=
  text = [] ∨ ∃ lines, text = lines ++ ['\n']

/-- Whether a text begins with a line on which the closing mark is all but blanks in front of it. -/
def BeginsClosing (text : Text) : Prop :=
  ∃ indent later : Text,
    indent.AllBlank ∧ '\n' ∉ indent ∧ text = indent ++ (closing ++ later)

/-- Whether a closing line follows after the first line of a text. -/
def ClosesFurther (text : Text) : Prop :=
  ∃ lines later, lines ≠ [] ∧ IsLines lines ∧ BeginsClosing later ∧ text = lines ++ later

variable
  {head lines tail text indent ended : Text}
  {layout : Layout}

theorem exists_lines_append
    (text : Text) :
    ∃ lines line, IsLines lines ∧ '\n' ∉ line ∧ text = lines ++ line := by
  induction text with
  | nil =>
      exact ⟨[], [], .inl rfl, List.not_mem_nil, rfl⟩
  | cons c rest inductionHypothesis =>
      obtain ⟨lines, line, whole, unbroken, rfl⟩ := inductionHypothesis
      rcases whole with rfl | ⟨lines, rfl⟩
      · by_cases lineFeed : c = '\n'
        · exact ⟨['\n'], line, .inr ⟨[], rfl⟩, unbroken, by simp [lineFeed]⟩
        · have unbroken : '\n' ∉ c :: line :=
            List.not_mem_cons_of_ne_of_not_mem (Ne.symm lineFeed) unbroken
          exact ⟨[], c :: line, .inl rfl, unbroken, rfl⟩
      · exact ⟨c :: (lines ++ ['\n']), line, .inr ⟨c :: lines, rfl⟩, unbroken, rfl⟩

/-- A closing line follows after the first line exactly if a closer is somewhere in the text. -/
theorem closesFurther_iff :
    ClosesFurther text ↔ ∃ before later, Closes text before later := by
  constructor
  · rintro ⟨lines, _, nonempty, whole, ⟨indent, later, blank, _, rfl⟩, rfl⟩
    obtain ⟨before, rfl⟩ := whole.resolve_left nonempty
    exact ⟨before, later, indent, blank, by simp⟩
  · rintro ⟨before, later, margin, blank, rfl⟩
    obtain ⟨lines, indent, whole, unbroken, rfl⟩ := exists_lines_append margin
    obtain ⟨_, indentBlank⟩ := Text.allBlank_append_iff.mp blank
    refine ⟨before ++ '\n' :: lines, indent ++ (closing ++ later), by simp, ?_,
      ⟨indent, later, indentBlank, unbroken, rfl⟩, by simp⟩
    rcases whole with rfl | ⟨lines, rfl⟩
    · exact .inr ⟨before, rfl⟩
    · exact .inr ⟨before ++ '\n' :: lines, by simp⟩

/-- No line feed stands among the blanks that a closing line begins with. -/
theorem BeginsClosing.ne_append
    {blanks rest : Text}
    (closes : BeginsClosing tail)
    (blank : blanks.AllBlank) :
    tail ≠ blanks ++ '\n' :: rest := by
  rintro rfl
  obtain ⟨indent, later, _, unbroken, shape⟩ := closes
  obtain ⟨more, rfl⟩ := Text.prefix_of_append_eq unbroken shape.symm
  rw [List.append_assoc] at shape
  obtain ⟨marked, rfl⟩ :=
    Text.prefix_of_append_eq (by decide) (List.append_cancel_left shape).symm
  have mark : Text.isBlank '-' = true :=
    blank '-' (List.mem_append_right _ (List.mem_append_left _ List.mem_cons_self))
  exact absurd mark (by decide)

/-- The gap and what follows it are the blanks before a closing line and what follows them. -/
theorem Layout.Fits.gap_append
    (fits : layout.Fits (indent ++ (opening ++ (ended ++ '\n' :: tail))))
    (blank : indent.AllBlank) :
    layout.gap ++ '\n' :: (layout.metadata ++ layout.close) = ended ++ '\n' :: tail ∧
      layout.indent = indent := by
  have after : Text.after? opening
      ((indent ++ (opening ++ (ended ++ '\n' :: tail))).dropWhile Text.isBlank) =
        some (ended ++ '\n' :: tail) :=
    after?_opening_eq_some_iff.mpr ⟨indent, blank, rfl⟩
  have same := Option.some.inj (fits.after?_opening.symm.trans after)
  have whole := fits.eq_opening
  rw [same] at whole
  exact ⟨same, (List.append_cancel_right whole).symm⟩

/-- Metadata end before a closing line exactly if the gap does not take all that is before it. -/
theorem Layout.IsPreferred.start_isPrefix_iff
    (preferred : layout.IsPreferred (indent ++ (opening ++ (ended ++ '\n' :: tail))))
    (blank : indent.AllBlank)
    (closes : BeginsClosing tail) :
    layout.start <+: indent ++ (opening ++ (ended ++ ['\n'])) ↔
      ¬ ended.length ≤ layout.gap.length := by
  obtain ⟨inner, sameIndent⟩ := preferred.fits.gap_append blank
  constructor
  · intro isPrefix long
    have length := isPrefix.length_le
    simp only [start, sameIndent, List.length_append, List.length_cons, List.length_nil] at length
    have none : layout.metadata = [] :=
      List.length_eq_zero_iff.mp (by omega)
    obtain ⟨_, following⟩ := List.append_inj inner (by omega)
    rw [none] at following
    exact closes.ne_append Text.allBlank_nil (List.cons.inj following).2.symm
  · intro short
    have short := Nat.not_le.mp short
    rcases List.append_eq_append_iff.mp inner with ⟨more, rfl, following⟩ | ⟨more, shape, _⟩
    · obtain ⟨c, others, rfl⟩ : ∃ c others, more = c :: others := by
        refine List.exists_cons_of_ne_nil ?_
        rintro rfl
        simp at short
      rw [List.cons_append, List.cons.injEq] at following
      obtain ⟨rfl, following⟩ := following
      obtain ⟨margin, later, marginBlank, _, rfl⟩ := closes
      -- The closing line itself would close the block for the same gap.
      have fits : Layout.Fits ⟨indent, layout.gap, others, margin, later⟩
          (indent ++ (opening ++
            (layout.gap ++ '\n' :: others ++ '\n' :: (margin ++ (closing ++ later))))) :=
        ⟨blank, preferred.fits.gap, marginBlank, by simp [start, close]⟩
      have shortest := preferred.shortest _ fits rfl
      obtain ⟨more, rfl⟩ : layout.metadata <+: others :=
        List.prefix_of_prefix_length_le ⟨_, following⟩ (List.prefix_append ..) shortest
      exact ⟨more ++ ['\n'], by simp [start, sameIndent]⟩
    · rw [shape, List.length_append] at short
      omega

/-- A gap that takes all blanks in front of a closing line leaves this line to the metadata. -/
theorem Layout.Fits.eq_of_length_le
    (fits : layout.Fits (indent ++ (opening ++ (ended ++ '\n' :: tail))))
    (blank : indent.AllBlank)
    (closes : BeginsClosing tail)
    (long : ended.length ≤ layout.gap.length) :
    layout.gap = ended ∧ tail = layout.metadata ++ layout.close := by
  obtain ⟨inner, _⟩ := fits.gap_append blank
  have gapBlank := fits.gap
  obtain ⟨more, shape⟩ : ended <+: layout.gap :=
    List.prefix_of_prefix_length_le ⟨_, inner.symm⟩ (List.prefix_append ..) long
  rw [← shape] at gapBlank inner ⊢
  rw [List.append_assoc] at inner
  have following := List.append_cancel_left inner
  match more with
  | [] =>
      exact ⟨List.append_nil ended, (List.cons.inj following).2.symm⟩
  | c :: others =>
      have othersBlank :=
        (Text.allBlank_cons_iff.mp (Text.allBlank_append_iff.mp gapBlank).2).2
      exact absurd (List.cons.inj following).2.symm (closes.ne_append othersBlank)

theorem exists_fits_of_closesFurther
    (blank : indent.AllBlank)
    (endedBlank : ended.AllBlank)
    (further : ClosesFurther tail) :
    ∃ layout : Layout,
      layout.Fits (indent ++ (opening ++ (ended ++ '\n' :: tail))) ∧ layout.gap = ended := by
  obtain ⟨before, later, margin, marginBlank, rfl⟩ := closesFurther_iff.mp further
  exact ⟨⟨indent, ended, before, margin, later⟩,
    ⟨blank, endedBlank, marginBlank, by simp [Layout.start, Layout.close]⟩, rfl⟩

/-- The gap takes these blanks exactly if there are only blanks and a line further on closes. -/
theorem Layout.IsPreferred.length_le_gap_iff
    (preferred : layout.IsPreferred (indent ++ (opening ++ (ended ++ '\n' :: tail))))
    (blank : indent.AllBlank)
    (closes : BeginsClosing tail) :
    ended.length ≤ layout.gap.length ↔ ended.AllBlank ∧ ClosesFurther tail := by
  constructor
  · intro long
    obtain ⟨rfl, rfl⟩ := preferred.fits.eq_of_length_le blank closes long
    exact ⟨preferred.fits.gap, closesFurther_iff.mpr
      ⟨layout.metadata, layout.rest, layout.margin, preferred.fits.margin, rfl⟩⟩
  · rintro ⟨endedBlank, further⟩
    obtain ⟨other, fits, rfl⟩ := exists_fits_of_closesFurther blank endedBlank further
    exact preferred.longest other fits

/-- A closing line that a gap leaves to the metadata is at their start. -/
theorem BeginsClosing.of_append_close
    (closes : BeginsClosing (layout.metadata ++ layout.close)) :
    BeginsClosing layout.metadata := by
  obtain ⟨margin, later, marginBlank, unbroken, shape⟩ := closes
  have absent : '\n' ∉ margin ++ closing := by
    rw [List.mem_append, not_or]
    exact ⟨unbroken, by decide⟩
  rw [← List.append_assoc] at shape
  obtain ⟨more, marked⟩ := Text.prefix_of_append_eq absent shape.symm
  exact ⟨margin, more, marginBlank, unbroken, by rw [← marked, List.append_assoc]⟩

/-- An opening line and lines after it are blanks, the opening mark and all up to a line feed. -/
theorem IsOpening.exists_ended
    (opened : IsOpening head)
    (whole : IsLines lines) :
    ∃ indent ended : Text,
      indent.AllBlank ∧
        (ended.AllBlank ↔ lines.AllBlank) ∧
        head ++ lines = indent ++ (opening ++ (ended ++ ['\n'])) := by
  obtain ⟨indent, trail, blank, trailBlank, _, rfl⟩ := opened
  rcases whole with rfl | ⟨lines, rfl⟩
  · exact ⟨indent, trail, blank, iff_of_true trailBlank Text.allBlank_nil, by simp⟩
  · have lineFeed : Text.isBlank '\n' = true := by
      decide
    refine ⟨indent, trail ++ '\n' :: lines, blank, ?_, by simp⟩
    simp only [Text.allBlank_append_iff, Text.allBlank_cons_iff, lineFeed, trailBlank,
      Text.allBlank_nil, true_and, and_true]

/--
In a content with an opening line, metadata end before any line that closes, the first one above
all, unless only blanks stand between the opening line and this line and there is a closing line
further on. In that case the line that should have closed the block is the first of the metadata.
-/
theorem ends_before_closing_line_iff
    (opened : IsOpening head)
    (whole : IsLines lines)
    (closes : BeginsClosing tail) :
    ((∀ block,
        find? (head ++ (lines ++ tail)) = some block →
        ∃ layout : Layout,
          layout.IsPreferred (head ++ (lines ++ tail)) ∧
            layout.metadata = block.metadata ∧
            layout.start <+: head ++ lines) ↔
        ¬ (lines.AllBlank ∧ ClosesFurther tail)) ∧
      (lines.AllBlank ∧ ClosesFurther tail →
        ∃ block,
          find? (head ++ (lines ++ tail)) = some block ∧ BeginsClosing block.metadata) := by
  obtain ⟨indent, ended, blank, endedBlank, startShape⟩ := opened.exists_ended whole
  have contentShape :
      head ++ (lines ++ tail) = indent ++ (opening ++ (ended ++ '\n' :: tail)) := by
    rw [← List.append_assoc, startShape]
    simp
  rw [contentShape, startShape, ← endedBlank]
  have overrunBlock (overrun : ended.AllBlank ∧ ClosesFurther tail) :
      ∃ block, find? (indent ++ (opening ++ (ended ++ '\n' :: tail))) = some block := by
    obtain ⟨other, fits, _⟩ := exists_fits_of_closesFurther blank overrun.1 overrun.2
    exact fits.exists_block
  refine ⟨⟨fun ends overrun => ?_, fun kept block found => ?_⟩, fun overrun => ?_⟩
  · obtain ⟨block, found⟩ := overrunBlock overrun
    obtain ⟨layout, preferred, _, isPrefix⟩ := ends block found
    exact (preferred.start_isPrefix_iff blank closes).mp isPrefix
      ((preferred.length_le_gap_iff blank closes).mpr overrun)
  · obtain ⟨layout, preferred, rfl⟩ := exists_layout_of_find? found
    exact ⟨layout, preferred, rfl, (preferred.start_isPrefix_iff blank closes).mpr
      (mt (preferred.length_le_gap_iff blank closes).mp kept)⟩
  · obtain ⟨block, found⟩ := overrunBlock overrun
    obtain ⟨layout, preferred, rfl⟩ := exists_layout_of_find? found
    have long := (preferred.length_le_gap_iff blank closes).mpr overrun
    obtain ⟨_, rfl⟩ := preferred.fits.eq_of_length_le blank closes long
    exact ⟨_, found, closes.of_append_close⟩

/-- Behind metadata a further closing line belongs to the body. -/
theorem ends_before_closing_line_iff_ofBodyMark :
    IsOpening " \n\t/*--- \n".toList ∧
      IsLines "\nid: a\n".toList ∧
      BeginsClosing "  ---*/\n---*/".toList ∧
      ∃ layout : Layout,
        layout.IsPreferred
            (" \n\t/*--- \n".toList ++ ("\nid: a\n".toList ++ "  ---*/\n---*/".toList)) ∧
          layout.metadata = "id: a".toList ∧
          layout.start <+: " \n\t/*--- \n".toList ++ "\nid: a\n".toList := by
  have opened : IsOpening " \n\t/*--- \n".toList :=
    ⟨" \n\t".toList, " ".toList, by decide, by decide, by decide, rfl⟩
  have whole : IsLines "\nid: a\n".toList :=
    .inr ⟨"\nid: a".toList, rfl⟩
  have closes : BeginsClosing "  ---*/\n---*/".toList :=
    ⟨"  ".toList, "\n---*/".toList, by decide, by decide, rfl⟩
  have kept : ¬ (Text.AllBlank "\nid: a\n".toList ∧ ClosesFurther "  ---*/\n---*/".toList) :=
    fun overrun => absurd overrun.1 (by decide)
  have found :
      find? (" \n\t/*--- \n".toList ++ ("\nid: a\n".toList ++ "  ---*/\n---*/".toList)) =
        some ⟨"id: a".toList, "---*/".toList⟩ := by
    decide
  have ends := (ends_before_closing_line_iff opened whole closes).1.mpr kept
  obtain ⟨layout, preferred, metadata, isPrefix⟩ := ends _ found
  exact ⟨opened, whole, closes, layout, preferred, metadata, isPrefix⟩

/-- A blank block takes its closing line and the body for metadata if a line of the body closes. -/
theorem blank_block_overruns :
    IsOpening "/*---\n".toList ∧
      IsLines "\n".toList ∧
      BeginsClosing "---*/\nBody\n---*/\n".toList ∧
      find? "/*---\n\n---*/\nBody\n---*/\n".toList = some ⟨"---*/\nBody".toList, []⟩ ∧
      ¬ "---*/\nBody".toList <:+: "/*---\n\n".toList := by
  refine ⟨⟨[], [], by decide, by decide, by decide, rfl⟩, .inr ⟨[], rfl⟩,
    ⟨[], "\nBody\n---*/\n".toList, by decide, by decide, rfl⟩, by decide, fun inside => ?_⟩
  exact absurd inside.length_le (by decide)

/-- Without the further closing line the blank block ends where it should. -/
example :
    find? "/*---\n\n---*/\nBody\n".toList = some ⟨[], "Body\n".toList⟩ := by
  decide

end Block

end ContractTemplates
