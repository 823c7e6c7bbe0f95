import Mathlib.Tactic.SplitIfs
import ContractTemplates.Text.Raw

namespace ContractTemplates

/-!
# Halves and the characters that they make up

A raw text is a text exactly if there is no half in it (`RawText.text?_eq_some_iff`). Its
units determine it up to halves that make up a character: units read back are the units
that were read (`RawText.units_ofUnits`), so two raw texts have the same units exactly if
they are the same once merged (`RawText.merged_inj`). Merging changes no text
(`RawText.merged_raw`).
-/

theorem Text.toNat_ofNat_of_valid
    {code : Nat}
    (valid : code.isValidChar) :
    (Char.ofNat code).toNat = code := by
  unfold Char.ofNat
  rw [dif_pos valid]
  rfl

namespace CodePoint

theorem toNat_valid
    (c : Char) :
    c.toNat < 0xD800 ∨ (0xDFFF < c.toNat ∧ c.toNat < 0x110000) :=
  c.valid

/-- A character of at most sixteen bits is the code point of its number. -/
theorem ofCode_toNat
    (c : Char) :
    ofCode c.toNat = .char c := by
  have valid := toNat_valid c
  unfold ofCode
  rw [dif_neg (by omega), Char.ofNat_toNat]

/-- The code point of a unit has this unit alone. -/
theorem units_ofCode
    {unit : Nat}
    (small : unit < 0x10000) :
    (ofCode unit).units = [unit] := by
  unfold ofCode
  split_ifs with between
  · have whole : 0xD800 + (unit - 0xD800) = unit := by
      omega
    simp only [units, whole]
  · have valid : unit.isValidChar := by
      unfold Nat.isValidChar
      omega
    simp only [units, Text.toNat_ofNat_of_valid valid, small, if_true]

/-- The character that two halves make up has the two halves as its units. -/
theorem units_pair
    {first second : Nat}
    (isFirst : isFirstHalf first = true)
    (isSecond : isSecondHalf second = true) :
    units
        (.char
          (Char.ofNat
            (0x10000 + (first - 0xD800) * 0x400 + (second - 0xDC00)))) =
      [first, second] := by
  simp only [isFirstHalf, isSecondHalf, Bool.and_eq_true, decide_eq_true_eq]
    at isFirst isSecond
  have valid :
      (0x10000 + (first - 0xD800) * 0x400 + (second - 0xDC00)).isValidChar := by
    unfold Nat.isValidChar
    omega
  have large :
      ¬ 0x10000 + (first - 0xD800) * 0x400 + (second - 0xDC00) < 0x10000 := by
    omega
  simp only [units, Text.toNat_ofNat_of_valid valid, large, if_false,
    List.cons.injEq, and_true]
  omega

/-- Every unit has sixteen bits. -/
theorem units_lt
    {point : CodePoint}
    {unit : Nat}
    (member : unit ∈ point.units) :
    unit < 0x10000 := by
  cases point with
  | char c =>
      have valid := toNat_valid c
      simp only [units] at member
      split_ifs at member <;>
        simp only [List.mem_cons, List.not_mem_nil, or_false] at member <;>
        omega
  | half offset =>
      have bound := offset.isLt
      simp only [units, List.mem_cons, List.not_mem_nil, or_false] at member
      omega

end CodePoint

namespace RawText

/-- A raw text is a text exactly if it is that text taken for a raw one. -/
theorem text?_eq_some_iff
    {raw : RawText}
    {text : Text} :
    raw.text? = some text ↔ raw = text.raw := by
  constructor
  · intro found
    unfold text? at found
    induction raw generalizing text with
    | nil =>
        simp only [List.mapM_nil] at found
        cases found
        rfl
    | cons point rest inductionHypothesis =>
        cases point with
        | half offset =>
            simp [CodePoint.char?] at found
        | char c =>
            have parts :
                ((rest.mapM CodePoint.char?).bind fun later =>
                  some (c :: later)) = some text := by
              simpa [CodePoint.char?] using found
            obtain ⟨later, foundLater, same⟩ := Option.bind_eq_some_iff.mp parts
            cases same
            rw [inductionHypothesis foundLater]
            rfl
  · rintro rfl
    exact Text.text?_raw text

/-- Where there are characters only, the raw text is what it shows. -/
theorem raw_shown
    {raw : RawText}
    (isText : raw.isText = true) :
    raw.shown.raw = raw := by
  unfold RawText.isText at isText
  induction raw with
  | nil =>
      rfl
  | cons point rest inductionHypothesis =>
      simp only [List.all_cons, Bool.and_eq_true] at isText
      have later := inductionHypothesis isText.2
      cases point with
      | half offset =>
          simp [CodePoint.char?] at isText
      | char c =>
          show CodePoint.char c :: Text.raw (shown rest) = _
          rw [later]

/-- There are characters only exactly if the raw text is a text. -/
theorem isText_iff
    {raw : RawText} :
    raw.isText = true ↔ ∃ text : Text, raw = text.raw := by
  constructor
  · intro isText
    exact ⟨raw.shown, (raw_shown isText).symm⟩
  · rintro ⟨text, rfl⟩
    exact Text.isText_raw text

@[simp]
theorem isText_append
    (first second : RawText) :
    isText (first ++ second) = (first.isText && second.isText) :=
  List.all_append

@[simp]
theorem isText_cons_char
    (c : Char)
    (rest : RawText) :
    isText (.char c :: rest) = rest.isText :=
  rfl

theorem isText_joined
    {separator : RawText}
    {pieces : List RawText}
    (separated : separator.isText = true)
    (each : ∀ piece ∈ pieces, piece.isText = true) :
    (joined separator pieces).isText = true := by
  unfold joined
  induction pieces with
  | nil =>
      rfl
  | cons piece rest inductionHypothesis =>
      obtain ⟨first, others⟩ := List.forall_mem_cons.mp each
      cases rest with
      | nil =>
          rw [List.intercalate_singleton]
          exact first
      | cons next later =>
          rw [List.intercalate_cons_cons, isText_append, isText_append, first,
            separated, inductionHypothesis others]
          rfl

/-- What shows a text without the replacement character at its start has this text there. -/
theorem prefix_shown_iff
    {text : Text}
    {raw : RawText}
    (unmarked : '\uFFFD' ∉ text) :
    text <+: raw.shown ↔ text.raw <+: raw := by
  induction text generalizing raw with
  | nil =>
      simp
  | cons c rest inductionHypothesis =>
      rw [List.mem_cons, not_or] at unmarked
      obtain ⟨other, unmarkedRest⟩ := unmarked
      cases raw with
      | nil =>
          simp [shown, Text.raw_cons]
      | cons point later =>
          show c :: rest <+: point.shown :: shown later ↔ _
          rw [Text.raw_cons, List.cons_prefix_cons, List.cons_prefix_cons,
            inductionHypothesis unmarkedRest]
          cases point with
          | char d =>
              simp [CodePoint.shown]
          | half offset =>
              simp [CodePoint.shown, Ne.symm other]

/-- Units read back are the units that were read. -/
theorem units_ofUnits
    {read : List Nat}
    (small : ∀ unit ∈ read, unit < 0x10000) :
    units (ofUnits read) = read := by
  induction read using ofUnits.induct with
  | case1 =>
      rfl
  | case2 unit =>
      simp [ofUnits, units, CodePoint.units_ofCode (small unit (by simp))]
  | case3 first second rest isPair inductionHypothesis =>
      have halves := isPair
      rw [Bool.and_eq_true] at halves
      have later := inductionHypothesis fun unit member =>
        small unit (by simp [member])
      unfold units at later ⊢
      rw [ofUnits, if_pos isPair, List.flatMap_cons,
        CodePoint.units_pair halves.1 halves.2, later]
      rfl
  | case4 first second rest noPair inductionHypothesis =>
      have later := inductionHypothesis fun unit member =>
        small unit (List.mem_cons_of_mem _ member)
      unfold units at later ⊢
      rw [ofUnits, if_neg noPair, List.flatMap_cons,
        CodePoint.units_ofCode (small first (by simp)), later]
      rfl

theorem units_lt
    {raw : RawText}
    {unit : Nat}
    (member : unit ∈ raw.units) :
    unit < 0x10000 := by
  obtain ⟨point, _, inPoint⟩ := List.mem_flatMap.mp member
  exact CodePoint.units_lt inPoint

/-- Merging changes no unit. -/
theorem units_merged
    (raw : RawText) :
    raw.merged.units = raw.units :=
  units_ofUnits fun _ => units_lt

/-- Two raw texts are the same once merged exactly if their units are the same. -/
theorem merged_inj
    {a b : RawText} :
    a.merged = b.merged ↔ a.units = b.units := by
  constructor
  · intro same
    rw [← units_merged a, same, units_merged]
  · intro same
    unfold merged
    rw [same]

/-- Merging again changes nothing. -/
@[simp]
theorem merged_merged
    (raw : RawText) :
    raw.merged.merged = raw.merged :=
  merged_inj.mpr (units_merged raw)

/-- A unit that is no first half is a code point by itself. -/
theorem ofUnits_cons
    {unit : Nat}
    (noFirst : CodePoint.isFirstHalf unit = false)
    (later : List Nat) :
    ofUnits (unit :: later) = .ofCode unit :: ofUnits later := by
  cases later with
  | nil =>
      rfl
  | cons second later =>
      simp only [ofUnits, noFirst, Bool.false_and, Bool.false_eq_true, if_false]

/-- The two units of a large character are read as the character. -/
theorem ofUnits_pair
    {beyond : Nat}
    (bound : beyond < 0x100000)
    (later : List Nat) :
    ofUnits
        ((0xD800 + beyond / 0x400) :: (0xDC00 + beyond % 0x400) :: later) =
      .char (Char.ofNat (0x10000 + beyond)) :: ofUnits later := by
  have isFirst : CodePoint.isFirstHalf (0xD800 + beyond / 0x400) = true := by
    unfold CodePoint.isFirstHalf
    simp only [Bool.and_eq_true, decide_eq_true_eq]
    omega
  have isSecond : CodePoint.isSecondHalf (0xDC00 + beyond % 0x400) = true := by
    unfold CodePoint.isSecondHalf
    simp only [Bool.and_eq_true, decide_eq_true_eq]
    omega
  have code :
      0x10000 + (0xD800 + beyond / 0x400 - 0xD800) * 0x400 +
        (0xDC00 + beyond % 0x400 - 0xDC00) = 0x10000 + beyond := by
    omega
  simp only [ofUnits, isFirst, isSecond, Bool.and_self, if_true, code]

/-- Merging changes no text. -/
@[simp]
theorem merged_raw
    (text : Text) :
    text.raw.merged = text.raw := by
  induction text with
  | nil =>
      rfl
  | cons c rest inductionHypothesis =>
      have valid := CodePoint.toNat_valid c
      show ofUnits (CodePoint.units (.char c) ++ units (Text.raw rest)) = _
      simp only [CodePoint.units]
      split_ifs with small
      · have noFirst : CodePoint.isFirstHalf c.toNat = false := by
          unfold CodePoint.isFirstHalf
          simp only [Bool.and_eq_false_iff, decide_eq_false_iff_not]
          omega
        rw [List.singleton_append, ofUnits_cons noFirst, CodePoint.ofCode_toNat]
        exact congrArg (CodePoint.char c :: ·) inductionHypothesis
      · have whole : 0x10000 + (c.toNat - 0x10000) = c.toNat := by
          omega
        have read :=
          ofUnits_pair (show c.toNat - 0x10000 < 0x100000 by omega)
            (units (Text.raw rest))
        rw [whole, Char.ofNat_toNat] at read
        exact read.trans (congrArg (CodePoint.char c :: ·) inductionHypothesis)

/-- Merging changes no raw text of characters only. -/
theorem merged_of_isText
    {raw : RawText}
    (isText : raw.isText = true) :
    raw.merged = raw := by
  rw [← raw_shown isText, merged_raw]

end RawText

end ContractTemplates
