import ContractTemplates.Proofs.Text.Raw
import ContractTemplates.Text.Lowercase
import Mathlib.Tactic.IntervalCases

namespace ContractTemplates.Text

/-!
# Lowercase forms stay as they are

A lowercase form is its own lowercase form, and lowering the letters A to Z beforehand
makes no difference: `lowercase_lowercase` and `lowercase_map_foldAscii`. Two texts that
agree up to the letters A to Z are therefore lowered to the same text.

Both laws rest on two properties of the table of runs, which are checked over the table
as a whole: the forms of a run are characters that no run holds, and they lie above the
signs and capitals of ASCII.
-/

/-! ## Runs -/

namespace LowercaseRun

variable {run other : LowercaseRun}

/-- Whether a run holds the character with a code. -/
def Holds (run : LowercaseRun) (code : Nat) : Prop :=
  run.first ≤ code ∧ code ≤ run.last ∧ (code - run.first) % run.step = 0

/-- Whether the forms of a run are characters above the signs and capitals of ASCII. -/
def IsRegular (run : LowercaseRun) : Prop :=
  run.first ≤ run.last ∧ (0x61 : Int) ≤ run.first + run.shift ∧
    ((run.last + run.shift : Int) < 0xD800 ∨
      (0xDFFF : Int) < run.first + run.shift ∧
        (run.last + run.shift : Int) < 0x110000)

/-- The code of the form of the first character. -/
def lowest (run : LowercaseRun) : Nat :=
  (run.first + run.shift).toNat

/-- The code of the form of the last character. -/
def highest (run : LowercaseRun) : Nat :=
  (run.last + run.shift).toNat

/-- Whether every form of a run lies below, above or between the characters of another run. -/
def misses (run other : LowercaseRun) : Bool :=
  Nat.blt run.highest other.first || Nat.blt other.last run.lowest ||
    Nat.beq other.step 2 && (Nat.beq run.first run.last || Nat.beq run.step 2) &&
      Nat.beq ((run.lowest + other.first) % 2) 1

instance decidableHolds
    (run : LowercaseRun)
    (code : Nat) :
    Decidable (run.Holds code) :=
  inferInstanceAs (Decidable (_ ∧ _ ∧ _))

instance decidableIsRegular
    (run : LowercaseRun) :
    Decidable run.IsRegular :=
  inferInstanceAs (Decidable (_ ∧ _ ∧ (_ ∨ _ ∧ _)))

theorem isRegular_of_mem :
    ∀ run ∈ lowercaseRuns, run.IsRegular := by
  decide +kernel

/-- The dotted capital I, whose form is no run of characters. -/
def dottedCapital : LowercaseRun :=
  ⟨0x130, 0x130, 1, 0⟩

theorem misses_of_mem :
    lowercaseRuns.all fun run =>
      (dottedCapital :: lowercaseRuns).all fun other => run.misses other := by
  decide +kernel

/-- The form of a character of one run is a character of no run. -/
theorem not_holds_form
    {code form : Nat}
    (member : run ∈ lowercaseRuns)
    (otherMember : other ∈ dottedCapital :: lowercaseRuns)
    (held : run.Holds code)
    (shifted : (form : Int) = code + run.shift) :
    ¬ other.Holds form := by
  have misses :=
    List.all_eq_true.mp (List.all_eq_true.mp misses_of_mem run member)
      other otherMember
  have regular := isRegular_of_mem run member
  unfold IsRegular at regular
  unfold Holds at held ⊢
  simp only [LowercaseRun.misses, lowest, highest, Bool.or_eq_true,
    Bool.and_eq_true, Nat.blt_eq, Nat.beq_eq] at misses
  rcases misses with (below | above) | ⟨⟨step, single | spaced⟩, odd⟩
  · omega
  · omega
  · rw [step]
    omega
  · rw [step]
    rw [spaced] at held
    omega

end LowercaseRun

/-! ## Characters -/

variable {c d : Char}

/-- Whether a character is its own lowercase form. -/
def IsLowered (c : Char) : Prop :=
  lowercaseCharacter c = [c]

instance decidableIsLowered
    (c : Char) :
    Decidable (IsLowered c) :=
  inferInstanceAs (Decidable (_ = _))

/-- The dotted capital I, a character of a run, or a character that is lowered already. -/
theorem lowercaseCharacter_cases
    (c : Char) :
    lowercaseCharacter c = ['i', Char.ofNat 0x307] ∨
      (∃ run ∈ lowercaseRuns, ∃ form,
        run.Holds c.toNat ∧ lowercaseCharacter c = [form] ∧
          (form.toNat : Int) = c.toNat + run.shift) ∨
      IsLowered c := by
  unfold IsLowered lowercaseCharacter
  split
  · exact .inl rfl
  · split
    · next run found =>
        have member := List.mem_of_find?_eq_some found
        have held : run.Holds c.toNat := by
          simpa [LowercaseRun.Holds, and_assoc] using List.find?_some found
        obtain ⟨ordered, least, valid⟩ :=
          LowercaseRun.isRegular_of_mem run member
        have bounds := held
        unfold LowercaseRun.Holds at bounds
        refine .inr (.inl ⟨run, member, _, held, rfl, ?_⟩)
        rw [toNat_ofNat_of_valid (by unfold Nat.isValidChar; omega)]
        omega
    · exact .inr (.inr rfl)

/-- A character that is neither in a run nor the dotted capital I is lowered already. -/
theorem isLowered_of_not_holds
    (apart :
      ∀ run ∈ LowercaseRun.dottedCapital :: lowercaseRuns,
        ¬ run.Holds c.toNat) :
    IsLowered c := by
  obtain ⟨undotted, apart⟩ := List.forall_mem_cons.mp apart
  have dotless : c.toNat ≠ 0x130 := by
    intro dotted
    rw [dotted] at undotted
    exact undotted (by decide)
  have none :
      lowercaseRuns.find? (fun run =>
        run.first ≤ c.toNat && c.toNat ≤ run.last &&
          (c.toNat - run.first) % run.step = 0) = .none := by
    rw [List.find?_eq_none]
    intro run member held
    exact apart run member (by simpa [LowercaseRun.Holds, and_assoc] using held)
  unfold IsLowered lowercaseCharacter
  rw [if_neg dotless, none]

/-- Lowercase forms are lowered. -/
theorem isLowered_of_mem_lowercaseCharacter
    (member : d ∈ lowercaseCharacter c) :
    IsLowered d := by
  rcases lowercaseCharacter_cases c with
    dotted | ⟨run, runMember, form, held, shape, shifted⟩ | lowered
  · rw [dotted] at member
    rcases List.mem_cons.mp member with rfl | member
    · decide
    · rw [List.mem_singleton.mp member]
      decide
  · rw [shape] at member
    rw [List.mem_singleton.mp member]
    apply isLowered_of_not_holds
    intro other otherMember
    exact LowercaseRun.not_holds_form runMember otherMember held shifted
  · rw [lowered] at member
    rw [List.mem_singleton.mp member]
    exact lowered

/-! ## The letters A to Z -/

/-- Whether a character is one of the letters A to Z. -/
def IsAsciiCapital (c : Char) : Prop :=
  0x41 ≤ c.toNat ∧ c.toNat ≤ 0x5A

instance decidableIsAsciiCapital
    (c : Char) :
    Decidable (IsAsciiCapital c) :=
  inferInstanceAs (Decidable (_ ∧ _))

theorem toNat_foldAscii
    (c : Char) :
    (foldAscii c).toNat =
      if IsAsciiCapital c then c.toNat + 32 else c.toNat := by
  have iff : IsAsciiCapital c ↔ c.val ≥ 'A'.val ∧ c.val ≤ 'Z'.val := by
    rw [ge_iff_le, UInt32.le_iff_toNat_le, UInt32.le_iff_toNat_le]
    rfl
  unfold foldAscii Char.toLower
  split
  · next capital =>
      have bounds := iff.mpr capital
      rw [if_pos bounds]
      unfold IsAsciiCapital at bounds
      have distance : ('a'.val - 'A'.val).toNat = 32 := rfl
      show (c.val + ('a'.val - 'A'.val)).toNat = c.val.toNat + 32
      rw [UInt32.toNat_add, distance]
      exact Nat.mod_eq_of_lt (by unfold Char.toNat at bounds; omega)
  · next other =>
      rw [if_neg (mt iff.mp other)]

theorem foldAscii_of_not_capital
    (other : ¬ IsAsciiCapital c) :
    foldAscii c = c := by
  apply Char.toNat_inj.mp
  rw [toNat_foldAscii, if_neg other]

/-- A letter A to Z is lowered as its run says. -/
theorem lowercaseCharacter_of_capital
    (capital : IsAsciiCapital c) :
    lowercaseCharacter c = [foldAscii c] := by
  have bounds := capital
  unfold IsAsciiCapital at bounds
  have found :
      lowercaseRuns.find? (fun run =>
        run.first ≤ c.toNat && c.toNat ≤ run.last &&
          (c.toNat - run.first) % run.step = 0) =
        some ⟨0x41, 0x5A, 1, 32⟩ :=
    List.find?_cons_of_pos (by simp [bounds, Nat.mod_one])
  have form : Char.ofNat (c.toNat + 32 : Int).toNat = foldAscii c := by
    apply Char.toNat_inj.mp
    rw [toNat_foldAscii, if_pos capital,
      toNat_ofNat_of_valid (by unfold Nat.isValidChar; omega)]
    omega
  unfold lowercaseCharacter
  rw [if_neg (by omega), found]
  exact congrArg (fun form => [form]) form

/-- Lowering a letter A to Z beforehand makes no difference. -/
theorem lowercaseCharacter_foldAscii
    (c : Char) :
    lowercaseCharacter (foldAscii c) = lowercaseCharacter c := by
  by_cases capital : IsAsciiCapital c
  · have shape := lowercaseCharacter_of_capital capital
    have lowered : IsLowered (foldAscii c) :=
      isLowered_of_mem_lowercaseCharacter (shape ▸ List.mem_singleton_self _)
    rw [shape]
    exact lowered
  · rw [foldAscii_of_not_capital capital]

/-- What is lowered has no letter A to Z. -/
theorem foldAscii_of_isLowered
    (lowered : IsLowered c) :
    foldAscii c = c := by
  by_cases capital : IsAsciiCapital c
  · have shape := lowercaseCharacter_of_capital capital
    rw [lowered] at shape
    exact (List.singleton_inj.mp shape).symm
  · exact foldAscii_of_not_capital capital

theorem foldAscii_foldAscii
    (c : Char) :
    foldAscii (foldAscii c) = foldAscii c := by
  by_cases capital : IsAsciiCapital c
  · apply foldAscii_of_isLowered
    have shape := lowercaseCharacter_of_capital capital
    exact isLowered_of_mem_lowercaseCharacter (shape ▸ List.mem_singleton_self _)
  · rw [foldAscii_of_not_capital capital, foldAscii_of_not_capital capital]

/-- A letter counts as a letter whether or not it is lowered. -/
theorem inRanges_foldAscii
    (c : Char) :
    inRanges caseIgnorableRanges (foldAscii c) = inRanges caseIgnorableRanges c ∧
      inRanges casedRanges (foldAscii c) = inRanges casedRanges c := by
  by_cases capital : IsAsciiCapital c
  · have code := toNat_foldAscii c
    rw [if_pos capital] at code
    unfold inRanges
    rw [code]
    unfold IsAsciiCapital at capital
    generalize c.toNat = letter at capital
    obtain ⟨least, greatest⟩ := capital
    interval_cases letter <;>
      decide +kernel
  · rw [foldAscii_of_not_capital capital]
    exact ⟨rfl, rfl⟩

theorem meetsCased_map_foldAscii
    (text : Text) :
    meetsCased (text.map foldAscii) = meetsCased text := by
  unfold meetsCased
  rw [List.dropWhile_map]
  have ignored :
      inRanges caseIgnorableRanges ∘ foldAscii = inRanges caseIgnorableRanges :=
    funext fun c => (inRanges_foldAscii c).1
  rw [ignored]
  cases text.dropWhile (inRanges caseIgnorableRanges) with
  | nil =>
      rfl
  | cons c rest =>
      exact (inRanges_foldAscii c).2

/-! ## Texts -/

theorem foldAscii_eq_sigma_iff
    (c : Char) :
    (foldAscii c).toNat = 0x3A3 ↔ c.toNat = 0x3A3 := by
  rw [toNat_foldAscii]
  split
  · next capital =>
      unfold IsAsciiCapital at capital
      omega
  · rfl

theorem lowercaseAfter_map_foldAscii
    (before text : Text) :
    lowercaseAfter (before.map foldAscii) (text.map foldAscii) =
      lowercaseAfter before text := by
  induction text generalizing before with
  | nil =>
      rfl
  | cons c rest inductionHypothesis =>
      have later := inductionHypothesis (c :: before)
      rw [List.map_cons] at later
      simp only [List.map_cons, lowercaseAfter, foldAscii_eq_sigma_iff,
        meetsCased_map_foldAscii, lowercaseCharacter_foldAscii, later]

/-- Lowering the letters A to Z beforehand makes no difference. -/
theorem lowercase_map_foldAscii
    (text : Text) :
    lowercase (text.map foldAscii) = lowercase text :=
  lowercaseAfter_map_foldAscii [] text

/-- What a character may become in a text: its form, or one of the two small sigmas. -/
def IsFormOf (c : Char) (form : Text) : Prop :=
  form = lowercaseCharacter c ∨
    c.toNat = 0x3A3 ∧ (form = [Char.ofNat 0x3C2] ∨ form = [Char.ofNat 0x3C3])

/-- A text is lowered character by character. -/
theorem exists_form
    (before : Text)
    (c : Char)
    (rest : Text) :
    ∃ form, IsFormOf c form ∧
      lowercaseAfter before (c :: rest) = form ++ lowercaseAfter (c :: before) rest := by
  refine ⟨_, ?_, rfl⟩
  split
  · next sigma =>
      split
      · exact .inr ⟨sigma, .inl rfl⟩
      · exact .inr ⟨sigma, .inr rfl⟩
  · exact .inl rfl

theorem lowercaseCharacter_ne_nil
    (c : Char) :
    lowercaseCharacter c ≠ [] := by
  rcases lowercaseCharacter_cases c with dotted | ⟨_, _, _, _, shape, _⟩ | lowered
  · exact dotted ▸ List.cons_ne_nil _ _
  · exact shape ▸ List.cons_ne_nil _ _
  · exact lowered ▸ List.cons_ne_nil _ _

/-- A character that is lowered is in the form of no other character, if it is below the letters. -/
theorem mem_lowercaseCharacter_iff
    (lowered : IsLowered d)
    (small : d.toNat < 0x61)
    (c : Char) :
    d ∈ lowercaseCharacter c ↔ d = c := by
  constructor
  · intro member
    rcases lowercaseCharacter_cases c with
      dotted | ⟨run, runMember, form, held, shape, shifted⟩ | kept
    · rw [dotted] at member
      rcases List.mem_cons.mp member with rfl | member
      · exact absurd small (by decide)
      · rw [List.mem_singleton.mp member] at small
        exact absurd small (by decide)
    · obtain ⟨_, least, _⟩ := LowercaseRun.isRegular_of_mem run runMember
      rw [shape] at member
      rw [List.mem_singleton.mp member] at small
      have first := held.1
      omega
    · rw [kept] at member
      exact List.mem_singleton.mp member
  · rintro rfl
    exact lowered ▸ List.mem_singleton_self _

namespace IsFormOf

variable {form : Text}

theorem isLowered_of_mem
    (isForm : IsFormOf c form)
    (member : d ∈ form) :
    IsLowered d := by
  rcases isForm with rfl | ⟨_, rfl | rfl⟩
  · exact isLowered_of_mem_lowercaseCharacter member
  · rw [List.mem_singleton.mp member]
    decide
  · rw [List.mem_singleton.mp member]
    decide

theorem ne_nil
    (isForm : IsFormOf c form) :
    form ≠ [] := by
  rcases isForm with rfl | ⟨_, rfl | rfl⟩
  · exact lowercaseCharacter_ne_nil c
  · exact List.cons_ne_nil _ _
  · exact List.cons_ne_nil _ _

theorem mem_iff
    (isForm : IsFormOf c form)
    (lowered : IsLowered d)
    (small : d.toNat < 0x61) :
    d ∈ form ↔ d = c := by
  rcases isForm with rfl | ⟨sigma, shape⟩
  · exact mem_lowercaseCharacter_iff lowered small c
  · have other : d ≠ c := by
      rintro rfl
      omega
    have absent : d ∉ form := by
      intro member
      rcases shape with rfl | rfl <;>
        (rw [List.mem_singleton.mp member] at small; exact absurd small (by decide))
    exact iff_of_false absent other

/-- A character that is lowered but for the letters A to Z has no other form. -/
theorem eq_of_isLowered
    (isForm : IsFormOf c form)
    (lowered : IsLowered (foldAscii c)) :
    form = [foldAscii c] := by
  have shape : lowercaseCharacter c = [foldAscii c] :=
    (lowercaseCharacter_foldAscii c).symm.trans lowered
  rcases isForm with rfl | ⟨sigma, _⟩
  · exact shape
  · have same : c = Char.ofNat 0x3A3 := Char.toNat_inj.mp sigma
    rw [same] at lowered
    exact absurd lowered (by decide)

end IsFormOf

theorem isLowered_of_mem_lowercaseAfter
    {before text : Text}
    (member : d ∈ lowercaseAfter before text) :
    IsLowered d := by
  induction text generalizing before with
  | nil =>
      cases member
  | cons c rest inductionHypothesis =>
      obtain ⟨form, isForm, shape⟩ := exists_form before c rest
      rw [shape] at member
      rcases List.mem_append.mp member with here | later
      · exact isForm.isLowered_of_mem here
      · exact inductionHypothesis later

/-- A text that is lowered already stays as it is. -/
theorem lowercaseAfter_of_isLowered
    {text : Text}
    (before : Text)
    (lowered : ∀ c ∈ text, IsLowered c) :
    lowercaseAfter before text = text := by
  induction text generalizing before with
  | nil =>
      rfl
  | cons c rest inductionHypothesis =>
      obtain ⟨first, others⟩ := List.forall_mem_cons.mp lowered
      obtain ⟨form, isForm, shape⟩ := exists_form before c rest
      have kept := foldAscii_of_isLowered first
      rw [shape, isForm.eq_of_isLowered (kept.symm ▸ first), kept,
        inductionHypothesis _ others]
      rfl

/-- A lowercase form is its own lowercase form. -/
theorem lowercase_lowercase
    (text : Text) :
    lowercase (lowercase text) = lowercase text :=
  lowercaseAfter_of_isLowered [] fun _ member =>
    isLowered_of_mem_lowercaseAfter member

theorem mem_lowercaseAfter_iff
    (lowered : IsLowered d)
    (small : d.toNat < 0x61)
    (before text : Text) :
    d ∈ lowercaseAfter before text ↔ d ∈ text := by
  induction text generalizing before with
  | nil =>
      rfl
  | cons c rest inductionHypothesis =>
      obtain ⟨form, isForm, shape⟩ := exists_form before c rest
      rw [shape, List.mem_append, List.mem_cons, isForm.mem_iff lowered small,
        inductionHypothesis]

/-- Signs and digits are neither lost nor added by lowering. -/
theorem mem_lowercase_iff
    (lowered : IsLowered d)
    (small : d.toNat < 0x61)
    (text : Text) :
    d ∈ lowercase text ↔ d ∈ text :=
  mem_lowercaseAfter_iff lowered small [] text

end ContractTemplates.Text
