import ContractTemplates.Proofs.Text.Lowercase
import ContractTemplates.Template.Catalogue

namespace ContractTemplates.Catalogue

/-!
# What a search pattern describes

`Fits` says what the characters of a pattern stand for, and `isLike_iff_fits` that the
matcher, which tries one ending of the text after the other, finds exactly the texts that
fit. A search text is found where a piece of a text fits its lowercase form,
`isFoundIn_iff`. Both the search text and the text end at their first NUL.
-/

/-- Whether a text consists of what the characters of a pattern stand for. -/
inductive Fits : (pattern text : Text) → Prop where
  | empty : Fits [] []
  /-- A percent sign stands for any text. -/
  | anyText
      {pattern rest : Text}
      (run : Text)
      (fits : Fits pattern rest) :
      Fits ('%' :: pattern) (run ++ rest)
  /-- An underscore stands for any character. -/
  | anyCharacter
      {pattern rest : Text}
      (d : Char)
      (fits : Fits pattern rest) :
      Fits ('_' :: pattern) (d :: rest)
  /-- Every character stands for itself, but for the letters A to Z. -/
  | same
      {c d : Char}
      {pattern rest : Text}
      (alike : Text.foldAscii c = Text.foldAscii d)
      (fits : Fits pattern rest) :
      Fits (c :: pattern) (d :: rest)

variable
  {c : Char}
  {pattern later text rest : Text}

theorem fits_nil_iff :
    Fits [] text ↔ text = [] := by
  constructor
  · rintro ⟨⟩
    rfl
  · rintro rfl
    exact .empty

theorem fits_percent_iff :
    Fits ('%' :: pattern) text ↔
      ∃ run rest, text = run ++ rest ∧ Fits pattern rest := by
  constructor
  · rintro (_ | ⟨run, fits⟩ | _ | ⟨_, fits⟩)
    · exact ⟨run, _, rfl, fits⟩
    · exact ⟨[_], _, rfl, fits⟩
  · rintro ⟨run, rest, rfl, fits⟩
    exact .anyText run fits

theorem not_fits_nil
    (different : c ≠ '%') :
    ¬ Fits (c :: pattern) [] := by
  intro fits
  generalize shape : ([] : Text) = text at fits
  cases fits with
  | anyText run fits =>
      exact different rfl
  | anyCharacter d fits =>
      cases shape
  | same alike fits =>
      cases shape

theorem fits_cons_iff
    {d : Char}
    (different : c ≠ '%') :
    Fits (c :: pattern) (d :: rest) ↔
      (c = '_' ∨ Text.foldAscii c = Text.foldAscii d) ∧ Fits pattern rest := by
  constructor
  · intro fits
    generalize shape : d :: rest = text at fits
    cases fits with
    | anyText run fits =>
        exact absurd rfl different
    | anyCharacter _ fits =>
        cases shape
        exact ⟨.inl rfl, fits⟩
    | same alike fits =>
        cases shape
        exact ⟨.inr alike, fits⟩
  · rintro ⟨rfl | alike, fits⟩
    · exact .anyCharacter d fits
    · exact .same alike fits

theorem mem_suffixes_iff :
    rest ∈ Text.suffixes text ↔ rest <:+ text := by
  induction text with
  | nil =>
      simp [Text.suffixes]
  | cons d text inductionHypothesis =>
      rw [Text.suffixes, List.mem_cons, inductionHypothesis, List.suffix_cons_iff]

/-! ## The matcher -/

/-- After the last percent sign of a row every ending of the text is tried. -/
theorem isLike_percent
    (last : ∀ later, pattern ≠ '%' :: later)
    (text : Text) :
    isLike ('%' :: pattern) text = (Text.suffixes text).any (isLike pattern) := by
  cases text with
  | nil =>
      rw [isLike.eq_3 _ _ fun later _ => last later, if_pos rfl]
  | cons d rest =>
      rw [isLike.eq_4 _ _ _ _ fun later _ => last later, if_pos rfl]

/-- Any ending of the text may follow a percent sign, also in a row of percent signs. -/
theorem isLike_percent_iff
    (pattern text : Text) :
    isLike ('%' :: pattern) text = true ↔
      ∃ rest, rest <:+ text ∧ isLike pattern rest = true := by
  induction pattern generalizing text with
  | nil =>
      have last : ∀ later : Text, [] ≠ '%' :: later := nofun
      rw [isLike_percent last, List.any_eq_true]
      simp only [mem_suffixes_iff]
  | cons c pattern inductionHypothesis =>
      by_cases percent : c = '%'
      · subst percent
        rw [isLike, inductionHypothesis]
        constructor
        · rintro ⟨rest, ending, fits⟩
          exact ⟨rest, ending, (inductionHypothesis rest).mpr
            ⟨rest, List.suffix_refl rest, fits⟩⟩
        · rintro ⟨rest, ending, fits⟩
          obtain ⟨later, laterEnding, fits⟩ := (inductionHypothesis rest).mp fits
          exact ⟨later, laterEnding.trans ending, fits⟩
      · rw [isLike_percent (by simp [percent]), List.any_eq_true]
        simp only [mem_suffixes_iff]

/-- The matcher accepts exactly the texts that fit. -/
theorem isLike_iff_fits
    (pattern text : Text) :
    isLike pattern text = true ↔ Fits pattern text := by
  induction pattern generalizing text with
  | nil =>
      rw [fits_nil_iff, isLike, List.isEmpty_iff]
  | cons c pattern inductionHypothesis =>
      by_cases percent : c = '%'
      · subst percent
        rw [isLike_percent_iff, fits_percent_iff]
        constructor
        · rintro ⟨rest, ⟨run, rfl⟩, fits⟩
          exact ⟨run, rest, rfl, (inductionHypothesis rest).mp fits⟩
        · rintro ⟨run, rest, rfl, fits⟩
          exact ⟨rest, List.suffix_append run rest,
            (inductionHypothesis rest).mpr fits⟩
      · cases text with
        | nil =>
            rw [isLike.eq_3 _ _ (by simp [percent]), if_neg percent]
            exact iff_of_false Bool.false_ne_true (not_fits_nil percent)
        | cons d rest =>
            rw [isLike.eq_4 _ _ _ _ (by simp [percent]), if_neg percent,
              fits_cons_iff percent, ← inductionHypothesis rest]
            simp only [Bool.and_eq_true, Bool.or_eq_true, decide_eq_true_eq]

/-! ## Composed patterns -/

/-- What fits one pattern after another consists of a piece for each. -/
theorem fits_append_iff :
    Fits (pattern ++ later) text ↔
      ∃ piece rest, text = piece ++ rest ∧ Fits pattern piece ∧ Fits later rest := by
  constructor
  · intro fits
    induction pattern generalizing text with
    | nil =>
        exact ⟨[], text, rfl, .empty, fits⟩
    | cons c pattern inductionHypothesis =>
        cases fits with
        | anyText run fits =>
            obtain ⟨piece, rest, rfl, here, after⟩ := inductionHypothesis fits
            exact ⟨run ++ piece, rest, by rw [List.append_assoc],
              .anyText run here, after⟩
        | anyCharacter d fits =>
            obtain ⟨piece, rest, rfl, here, after⟩ := inductionHypothesis fits
            exact ⟨d :: piece, rest, rfl, .anyCharacter d here, after⟩
        | same alike fits =>
            obtain ⟨piece, rest, rfl, here, after⟩ := inductionHypothesis fits
            exact ⟨_ :: piece, rest, rfl, .same alike here, after⟩
  · rintro ⟨piece, rest, rfl, here, after⟩
    induction here with
    | empty =>
        exact after
    | anyText run fits inductionHypothesis =>
        rw [List.append_assoc]
        exact .anyText run inductionHypothesis
    | anyCharacter d fits inductionHypothesis =>
        exact .anyCharacter d inductionHypothesis
    | same alike fits inductionHypothesis =>
        exact .same alike inductionHypothesis

/-- Every text fits itself, whatever signs it has. -/
theorem fits_of_map_foldAscii_eq
    (alike : pattern.map Text.foldAscii = text.map Text.foldAscii) :
    Fits pattern text := by
  induction pattern generalizing text with
  | nil =>
      rw [List.map_eq_nil_iff.mp alike.symm]
      exact .empty
  | cons c pattern inductionHypothesis =>
      cases text with
      | nil =>
          cases alike
      | cons d text =>
          obtain ⟨first, others⟩ := List.cons_eq_cons.mp alike
          exact .same first (inductionHypothesis others)

/-- A pattern without wildcards stands for itself only. -/
theorem fits_iff_of_plain
    (noPercent : '%' ∉ pattern)
    (noUnderscore : '_' ∉ pattern) :
    Fits pattern text ↔ pattern.map Text.foldAscii = text.map Text.foldAscii := by
  constructor
  · intro fits
    induction fits with
    | empty =>
        rfl
    | anyText run fits inductionHypothesis =>
        exact absurd List.mem_cons_self noPercent
    | anyCharacter d fits inductionHypothesis =>
        exact absurd List.mem_cons_self noUnderscore
    | same alike fits inductionHypothesis =>
        rw [List.map_cons, List.map_cons, alike, inductionHypothesis
          (fun member => noPercent (List.mem_cons_of_mem _ member))
          (fun member => noUnderscore (List.mem_cons_of_mem _ member))]
  · exact fits_of_map_foldAscii_eq

/-- Lowering the letters A to Z of a text beforehand makes no difference. -/
theorem fits_map_foldAscii_iff :
    Fits pattern (text.map Text.foldAscii) ↔ Fits pattern text := by
  constructor
  · intro fits
    generalize shape : text.map Text.foldAscii = folded at fits
    induction fits generalizing text with
    | empty =>
        rw [List.map_eq_nil_iff.mp shape]
        exact .empty
    | anyText run fits inductionHypothesis =>
        obtain ⟨before, after, rfl, _, rest⟩ := List.map_eq_append_iff.mp shape
        exact .anyText before (inductionHypothesis rest)
    | anyCharacter d fits inductionHypothesis =>
        obtain ⟨head, tail, rfl, _, rest⟩ := List.map_eq_cons_iff.mp shape
        exact .anyCharacter head (inductionHypothesis rest)
    | same alike fits inductionHypothesis =>
        obtain ⟨head, tail, rfl, first, rest⟩ := List.map_eq_cons_iff.mp shape
        rw [← first, Text.foldAscii_foldAscii] at alike
        exact .same alike (inductionHypothesis rest)
  · intro fits
    induction fits with
    | empty =>
        exact .empty
    | anyText run fits inductionHypothesis =>
        rw [List.map_append]
        exact .anyText _ inductionHypothesis
    | anyCharacter d fits inductionHypothesis =>
        exact .anyCharacter _ inductionHypothesis
    | same alike fits inductionHypothesis =>
        exact .same (alike.trans (Text.foldAscii_foldAscii _).symm) inductionHypothesis

/-! ## The end at NUL -/

/-- The character at which matching ends. -/
def nul : Char :=
  Char.ofNat 0

variable {before : Text}

theorem untilNul_cons
    (c : Char)
    (rest : Text) :
    untilNul (c :: rest) = if c = nul then [] else c :: untilNul rest := by
  show (Text.cut nul (c :: rest)).1 =
    if c = nul then [] else c :: (Text.cut nul rest).1
  rw [Text.cut]
  by_cases ends : c = nul
  · rw [if_pos ends, if_pos ends]
  · rw [if_neg ends, if_neg ends]

theorem untilNul_append_of_not_mem
    (absent : nul ∉ before)
    (rest : Text) :
    untilNul (before ++ rest) = before ++ untilNul rest := by
  induction before with
  | nil =>
      rfl
  | cons c before inductionHypothesis =>
      rw [List.mem_cons, not_or] at absent
      rw [List.cons_append, untilNul_cons, if_neg (Ne.symm absent.1),
        inductionHypothesis absent.2]
      rfl

theorem untilNul_of_not_mem
    (absent : nul ∉ text) :
    untilNul text = text := by
  have whole := untilNul_append_of_not_mem absent []
  rwa [List.append_nil, show untilNul [] = [] from rfl, List.append_nil] at whole

theorem untilNul_append_of_mem
    (present : nul ∈ before)
    (rest : Text) :
    untilNul (before ++ rest) = untilNul before := by
  induction before with
  | nil =>
      cases present
  | cons c before inductionHypothesis =>
      rw [List.cons_append, untilNul_cons, untilNul_cons]
      split
      · rfl
      · next different =>
          have later := (List.mem_cons.mp present).resolve_left (Ne.symm different)
          rw [inductionHypothesis later]

theorem untilNul_prefix
    (text : Text) :
    untilNul text <+: text := by
  induction text with
  | nil =>
      exact List.prefix_rfl
  | cons c rest inductionHypothesis =>
      rw [untilNul_cons]
      split
      · exact List.nil_prefix
      · exact (List.prefix_cons_inj c).mpr inductionHypothesis

theorem nul_not_mem_untilNul
    (text : Text) :
    nul ∉ untilNul text := by
  induction text with
  | nil =>
      exact List.not_mem_nil
  | cons c rest inductionHypothesis =>
      rw [untilNul_cons]
      split
      · exact List.not_mem_nil
      · next different =>
          rw [List.mem_cons, not_or]
          exact ⟨Ne.symm different, inductionHypothesis⟩

theorem foldAscii_eq_nul_iff
    (c : Char) :
    Text.foldAscii c = nul ↔ c = nul := by
  constructor
  · intro folded
    by_cases capital : Text.IsAsciiCapital c
    · have code := Text.toNat_foldAscii c
      rw [if_pos capital, folded] at code
      exact absurd code (Nat.ne_of_lt (Nat.add_pos_right _ (by decide)))
    · rwa [Text.foldAscii_of_not_capital capital] at folded
  · rintro rfl
    rfl

theorem untilNul_map_foldAscii
    (text : Text) :
    untilNul (text.map Text.foldAscii) = (untilNul text).map Text.foldAscii := by
  induction text with
  | nil =>
      rfl
  | cons c rest inductionHypothesis =>
      rw [List.map_cons, untilNul_cons, untilNul_cons, inductionHypothesis]
      by_cases ends : c = nul
      · rw [if_pos ends, if_pos ((foldAscii_eq_nul_iff c).mpr ends), List.map_nil]
      · rw [if_neg ends, if_neg (mt (foldAscii_eq_nul_iff c).mp ends), List.map_cons]

/-! ## Searching -/

/-- Whether a search text is found in a text: a piece of the text fits its lowercase form. -/
theorem isFoundIn_iff
    (search text : Text) :
    isFoundIn (searchPattern search) text = true ↔
      ∃ before piece after,
        untilNul text = before ++ piece ++ after ∧
          Fits (untilNul search.lowercase) piece ∧
          (nul ∈ search → after = []) := by
  have cased : nul ∈ search.lowercase ↔ nul ∈ search :=
    Text.mem_lowercase_iff (by decide) (by decide) search
  unfold isFoundIn searchPattern
  rw [isLike_iff_fits, untilNul_map_foldAscii, fits_map_foldAscii_iff,
    List.cons_append, untilNul_cons, if_neg (by decide), fits_percent_iff]
  by_cases present : nul ∈ search
  · rw [untilNul_append_of_mem (cased.mpr present)]
    constructor
    · rintro ⟨run, piece, shape, fits⟩
      exact ⟨run, piece, [], by rw [shape, List.append_nil], fits, fun _ => rfl⟩
    · rintro ⟨run, piece, after, shape, fits, ends⟩
      rw [ends present, List.append_nil] at shape
      exact ⟨run, piece, shape, fits⟩
  · have absent := mt cased.mp present
    rw [untilNul_append_of_not_mem absent, untilNul_of_not_mem absent]
    constructor
    · rintro ⟨run, rest, shape, fits⟩
      obtain ⟨piece, after, rfl, fits, _⟩ := fits_append_iff.mp fits
      exact ⟨run, piece, after, by rw [shape, List.append_assoc], fits,
        fun member => absurd member present⟩
    · rintro ⟨run, piece, after, shape, fits, _⟩
      have trailing : Fits (untilNul ['%']) after := by
        rw [← List.append_nil after]
        exact .anyText after .empty
      exact ⟨run, piece ++ after, by rw [shape, List.append_assoc],
        fits_append_iff.mpr ⟨piece, after, rfl, fits, trailing⟩⟩

end ContractTemplates.Catalogue
