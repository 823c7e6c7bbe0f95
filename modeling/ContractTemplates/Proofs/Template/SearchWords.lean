import ContractTemplates.Proofs.Template.SearchHits

namespace ContractTemplates.Catalogue

/-!
# Rows are found by their own words

A published row is listed for every piece of its title and of its description exactly if
lowering the piece changes no other letters than A to Z: `words_found_iff`. Only these
letters are lowered in the row as well, so a piece with another capital letter is looked
for in a form that the row does not have.

That no such piece is found in itself is a matter of counting. Characters that are lowered
already stand for themselves in a pattern, and each of them needs a place in the text. The
form of another capital letter is one more of them than the text has, `count_lowercaseAfter`.
-/

open Text (foldAscii IsLowered IsFormOf lowercaseAfter)

variable
  {c : Char}
  {form pattern piece text word : Text}
  {row : TemplateRow}

/-- Whether a character is lowered, but for the letters A to Z, and no wildcard. -/
def isKept (c : Char) : Bool :=
  decide (IsLowered (foldAscii c) ∧ foldAscii c ≠ '%' ∧ foldAscii c ≠ '_')

theorem isKept_foldAscii
    (c : Char) :
    isKept (foldAscii c) = isKept c := by
  unfold isKept
  rw [Text.foldAscii_foldAscii]

/-- Every character that a pattern keeps has a place in a text that fits. -/
theorem Fits.count_le
    (fits : Fits pattern text) :
    pattern.countP isKept ≤ text.countP isKept := by
  induction fits with
  | empty =>
      exact Nat.le_refl 0
  | anyText run fits inductionHypothesis =>
      rw [List.countP_cons_of_neg (by decide), List.countP_append]
      exact inductionHypothesis.trans (Nat.le_add_left _ _)
  | anyCharacter d fits inductionHypothesis =>
      rw [List.countP_cons_of_neg (by decide), List.countP_cons]
      exact inductionHypothesis.trans (Nat.le_add_right _ _)
  | same alike fits inductionHypothesis =>
      rw [List.countP_cons, List.countP_cons, ← isKept_foldAscii, alike,
        isKept_foldAscii]
      exact Nat.add_le_add_right inductionHypothesis _

/-- A character that is not kept as it is becomes at least one that is. -/
theorem kept_or_more
    (isForm : IsFormOf c form) :
    form = [foldAscii c] ∨ isKept c = false ∧ 0 < form.countP isKept := by
  by_cases lowered : IsLowered (foldAscii c)
  · exact .inl (isForm.eq_of_isLowered lowered)
  · right
    obtain ⟨d, member⟩ := List.exists_mem_of_ne_nil form isForm.ne_nil
    have formLowered := isForm.isLowered_of_mem member
    -- A sign is in the form of itself only, and signs are lowered.
    have noSign (sign : Char) (signLowered : IsLowered sign)
        (same : foldAscii sign = sign) (small : sign.toNat < 0x61) : d ≠ sign := by
      rintro rfl
      have own := (isForm.mem_iff signLowered small).mp member
      rw [← own, same] at lowered
      exact lowered signLowered
    have kept : isKept d = true := by
      unfold isKept
      rw [Text.foldAscii_of_isLowered formLowered, decide_eq_true_eq]
      exact ⟨formLowered, noSign '%' (by decide) (by decide) (by decide),
        noSign '_' (by decide) (by decide) (by decide)⟩
    constructor
    · exact decide_eq_false fun held => lowered held.1
    · exact List.countP_pos_iff.mpr ⟨d, member, kept⟩

/--
Lowering a text keeps the characters that are kept, and adds one for each other capital
letter, so that their number tells whether there is one.
-/
theorem count_lowercaseAfter
    (before text : Text) :
    (untilNul text).countP isKept ≤
        (untilNul (lowercaseAfter before text)).countP isKept ∧
      ((untilNul (lowercaseAfter before text)).countP isKept ≤
          (untilNul text).countP isKept →
        untilNul (lowercaseAfter before text) = (untilNul text).map foldAscii) := by
  induction text generalizing before with
  | nil =>
      exact ⟨Nat.le_refl _, fun _ => rfl⟩
  | cons c rest inductionHypothesis =>
      obtain ⟨fewer, same⟩ := inductionHypothesis (c :: before)
      obtain ⟨form, isForm, shape⟩ := Text.exists_form before c rest
      rw [shape, untilNul_cons]
      by_cases ends : c = nul
      · have own : form = [nul] := by
          subst ends
          exact isForm.eq_of_isLowered (by decide)
        rw [if_pos ends, own, List.singleton_append, untilNul_cons, if_pos rfl]
        exact ⟨Nat.le_refl _, fun _ => rfl⟩
      · have absent : nul ∉ form :=
          mt (isForm.mem_iff (by decide) (by decide)).mp (Ne.symm ends)
        rw [if_neg ends, untilNul_append_of_not_mem absent]
        rcases kept_or_more isForm with rfl | ⟨notKept, more⟩
        · rw [List.singleton_append, List.countP_cons, List.countP_cons,
            isKept_foldAscii, List.map_cons]
          refine ⟨Nat.add_le_add_right fewer _, fun noMore => ?_⟩
          rw [same (Nat.le_of_add_le_add_right noMore)]
        · rw [List.countP_append, List.countP_cons_of_neg (by simp [notKept])]
          refine ⟨fewer.trans (Nat.le_add_left _ _), fun noMore => ?_⟩
          omega

/-- A text that has room for the lowercase form of a word has the word as it is lowered. -/
theorem lowercase_eq_of_fits
    (within : piece <:+: untilNul word)
    (fits : Fits (untilNul word.lowercase) piece) :
    untilNul word.lowercase = (untilNul word).map foldAscii :=
  (count_lowercaseAfter [] word).2 (fits.count_le.trans within.sublist.countP_le)

/-- A row is found by a piece whose lowering changes only the letters A to Z. -/
theorem isFoundIn_of_piece
    {before after : Text}
    (kept : untilNul word.lowercase = (untilNul word).map foldAscii)
    (absent : nul ∉ before) :
    isFoundIn (searchPattern word) (before ++ word ++ after) = true := by
  have fits : Fits (untilNul word.lowercase) (untilNul word) := by
    apply fits_of_map_foldAscii_eq
    rw [kept, List.map_map]
    exact List.map_congr_left fun c _ => Text.foldAscii_foldAscii c
  rw [isFoundIn_iff, List.append_assoc, untilNul_append_of_not_mem absent]
  by_cases present : nul ∈ word
  · exact ⟨before, untilNul word, [],
      by rw [untilNul_append_of_mem present, List.append_nil], fits, fun _ => rfl⟩
  · exact ⟨before, untilNul word, untilNul after,
      by rw [untilNul_append_of_not_mem present, untilNul_of_not_mem present,
        List.append_assoc],
      fits, fun member => absurd member present⟩

/-- A word that is found in itself, or in nothing, is changed in the letters A to Z only. -/
theorem lowercase_eq_of_isFoundIn
    (text : Text)
    (among : text = word ∨ text = [])
    (found : isFoundIn (searchPattern word) text = true) :
    untilNul word.lowercase = (untilNul word).map foldAscii := by
  obtain ⟨before, piece, after, shape, fits, _⟩ :=
    (isFoundIn_iff word text).mp found
  have within : piece <:+: untilNul text :=
    ⟨before, after, shape.symm⟩
  rcases among with rfl | rfl
  · exact lowercase_eq_of_fits within fits
  · have nothing : piece = [] := List.infix_nil.mp within
    subst nothing
    exact lowercase_eq_of_fits List.nil_infix fits

/--
Each published row is listed for a word that stands in its title or its description,
before any NUL of that text, exactly if the word is short enough to be searched for and
lowering it, up to its first NUL, changes only the letters A to Z.
-/
theorem words_found_iff
    (word : Text) :
    (∀ store row text before after,
      row ∈ store.templates →
      row.isPublished = true →
      text ∈ row.texts →
      text = before ++ word ++ after →
      nul ∉ before →
      ∃ rows,
        list ⟨some word, none, none⟩ store = .ok rows ∧ row ∈ rows) ↔
      (searchPattern word).utf8.length ≤ patternLimit ∧
        untilNul word.lowercase = (untilNul word).map foldAscii := by
  constructor
  · intro found
    obtain ⟨rows, listed, member⟩ :=
      found ⟨[titled word], []⟩ (titled word) word [] []
        (List.mem_singleton_self _) rfl (by simp)
        (List.append_nil word).symm List.not_mem_nil
    obtain ⟨checked, _⟩ := list_eq_ok_iff.mp listed
    obtain ⟨_, _, hit, _⟩ := (mem_of_list_iff listed).mp member
    constructor
    · obtain ⟨_, _, nothing | short⟩ := (check_eq_ok_iff rfl).mp checked
      · cases nothing
      · exact short
    · rcases (matchesSearch_iff rfl).mp hit with rfl | inTitle | inNothing
      · rfl
      · rw [titleText_titled] at inTitle
        exact lowercase_eq_of_isFoundIn word (.inl rfl) inTitle
      · exact lowercase_eq_of_isFoundIn [] (.inr rfl) inNothing
  · rintro ⟨short, kept⟩ store row text before after stored published ofRow shape absent
    obtain ⟨rows, listed, rowsIff⟩ := exists_list_of_short short store
    have inText : isFoundIn (searchPattern word) text = true := by
      rw [shape]
      exact isFoundIn_of_piece kept absent
    refine ⟨rows, listed, (rowsIff row).mpr ⟨stored, published,
      (matchesSearch_iff rfl).mpr (.inr ?_)⟩⟩
    rcases List.mem_cons.mp ofRow with rfl | described
    · exact .inl inText
    · right
      unfold TemplateRow.descriptionText
      rw [Option.mem_toList.mp described]
      exact inText

/-- A title that begins with a capital letter beyond Z. -/
def schoolTitle : Text :=
  "École".toList

/-- A search for its whole title does not list the row of such a title. -/
theorem school_missed_by_title :
    (titled schoolTitle).isPublished = true ∧
      (titled schoolTitle).title = schoolTitle ∧
      list ⟨some schoolTitle, none, none⟩ ⟨[titled schoolTitle], []⟩ = .ok [] := by
  refine ⟨rfl, rfl, list_eq_ok_iff.mpr ⟨rfl, ?_⟩⟩
  have noneMatches :
      ([titled schoolTitle].filter (·.isPublished)).filter
          (fun row =>
            matchesSearch ⟨some schoolTitle, none, none⟩ row &&
              matchesPrice ⟨some schoolTitle, none, none⟩ row) =
        [] := by
    decide
  rw [noneMatches, byTitle, List.mergeSort_nil]

end ContractTemplates.Catalogue
