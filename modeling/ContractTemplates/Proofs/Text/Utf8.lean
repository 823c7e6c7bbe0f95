import ContractTemplates.Text.Utf8
import Mathlib.Tactic.IntervalCases

namespace ContractTemplates.Text

/-!
# Text is read from its own bytes

The first byte of a character says how many bytes follow it, and each of these adds
six bits. So the bytes of a character are read as one piece, which is the character,
whatever comes after them.
-/

theorem toNat_ofNat_of_lt
    {byte : Nat}
    (small : byte < 0x100) :
    (UInt8.ofNat byte).toNat = byte :=
  Nat.mod_eq_of_lt small

/-! ## First bytes -/

theorem utf8Lead?_two
    {high : Nat}
    (least : 2 ≤ high)
    (small : high < 0x20) :
    utf8Lead? (0xC0 + high) = some ⟨high, 1, 0x80, 0xBF⟩ := by
  interval_cases high <;>
    rfl

/-- Shorter forms and surrogates are excluded by the bounds of the second byte. -/
theorem utf8Lead?_three
    {high : Nat}
    (small : high < 0x10) :
    utf8Lead? (0xE0 + high) =
      some ⟨high, 2, if high = 0 then 0xA0 else 0x80,
        if high = 0xD then 0x9F else 0xBF⟩ := by
  interval_cases high <;>
    rfl

/-- Shorter forms and what is beyond Unicode are excluded by the second byte. -/
theorem utf8Lead?_four
    {high : Nat}
    (small : high ≤ 4) :
    utf8Lead? (0xF0 + high) =
      some ⟨high, 3, if high = 0 then 0x90 else 0x80,
        if high = 4 then 0x8F else 0xBF⟩ := by
  interval_cases high <;>
    rfl

theorem utf8Piece_of_lead
    {byte : Nat}
    {lead : Utf8Lead}
    (small : byte < 0x100)
    (promised : utf8Lead? byte = some lead)
    (rest : Bytes) :
    utf8Piece (UInt8.ofNat byte) rest =
      utf8Tail lead.bits 1 lead.following lead.least lead.greatest rest := by
  unfold utf8Piece
  rw [toNat_ofNat_of_lt small, promised]

/-- A byte that follows adds six bits. -/
theorem utf8Tail_cons
    {bits least greatest : Nat}
    (small : bits < 0x40)
    (low : least ≤ 0x80 + bits)
    (high : 0x80 + bits ≤ greatest)
    (code length following : Nat)
    (rest : Bytes) :
    utf8Tail code length (following + 1) least greatest
        (UInt8.ofNat (0x80 + bits) :: rest) =
      utf8Tail (code * 0x40 + bits) (length + 1) following 0x80 0xBF rest := by
  have byte : (UInt8.ofNat (0x80 + bits)).toNat = 0x80 + bits :=
    toNat_ofNat_of_lt (by omega)
  have sixBits : (0x80 + bits) % 0x40 = bits := by
    omega
  rw [utf8Tail, byte, if_pos ⟨low, high⟩, sixBits]

/-! ## Characters of one to four bytes -/

section widths

variable
  {code : Nat}
  (rest : Bytes)

theorem utf8Piece_one
    (small : code < 0x80) :
    utf8Piece (UInt8.ofNat code) rest = ⟨some (Char.ofNat code), 1⟩ := by
  have lead : utf8Lead? code = some ⟨code, 0, 0, 0⟩ :=
    if_pos small
  rw [utf8Piece_of_lead (by omega) lead]
  rfl

theorem utf8Piece_two
    (large : 0x80 ≤ code)
    (small : code < 0x800) :
    utf8Piece (UInt8.ofNat (0xC0 + code / 0x40))
        (UInt8.ofNat (0x80 + code % 0x40) :: rest) =
      ⟨some (Char.ofNat code), 2⟩ := by
  have joined : code / 0x40 * 0x40 + code % 0x40 = code := by
    omega
  rw [utf8Piece_of_lead (by omega) (utf8Lead?_two (by omega) (by omega))]
  dsimp only
  rw [utf8Tail_cons (by omega) (by omega) (by omega), joined]
  rfl

theorem utf8Piece_three
    (large : 0x800 ≤ code)
    (small : code < 0x10000)
    (valid : code < 0xD800 ∨ 0xDFFF < code) :
    utf8Piece (UInt8.ofNat (0xE0 + code / 0x1000))
        (UInt8.ofNat (0x80 + code / 0x40 % 0x40) ::
          UInt8.ofNat (0x80 + code % 0x40) :: rest) =
      ⟨some (Char.ofNat code), 3⟩ := by
  have joined :
      (code / 0x1000 * 0x40 + code / 0x40 % 0x40) * 0x40 + code % 0x40 =
        code := by
    omega
  have least :
      (if code / 0x1000 = 0 then 0xA0 else 0x80) ≤
        0x80 + code / 0x40 % 0x40 := by
    split <;>
      omega
  have greatest :
      0x80 + code / 0x40 % 0x40 ≤
        (if code / 0x1000 = 0xD then 0x9F else 0xBF) := by
    split <;>
      omega
  rw [utf8Piece_of_lead (by omega) (utf8Lead?_three (by omega)),
    utf8Tail_cons (by omega) least greatest,
    utf8Tail_cons (by omega) (by omega) (by omega), joined]
  rfl

theorem utf8Piece_four
    (large : 0x10000 ≤ code)
    (valid : code < 0x110000) :
    utf8Piece (UInt8.ofNat (0xF0 + code / 0x40000))
        (UInt8.ofNat (0x80 + code / 0x1000 % 0x40) ::
          UInt8.ofNat (0x80 + code / 0x40 % 0x40) ::
            UInt8.ofNat (0x80 + code % 0x40) :: rest) =
      ⟨some (Char.ofNat code), 4⟩ := by
  have joined :
      ((code / 0x40000 * 0x40 + code / 0x1000 % 0x40) * 0x40 +
        code / 0x40 % 0x40) * 0x40 + code % 0x40 = code := by
    omega
  have least :
      (if code / 0x40000 = 0 then 0x90 else 0x80) ≤
        0x80 + code / 0x1000 % 0x40 := by
    split <;>
      omega
  have greatest :
      0x80 + code / 0x1000 % 0x40 ≤
        (if code / 0x40000 = 4 then 0x8F else 0xBF) := by
    split <;>
      omega
  rw [utf8Piece_of_lead (by omega) (utf8Lead?_four (by omega)),
    utf8Tail_cons (by omega) least greatest,
    utf8Tail_cons (by omega) (by omega) (by omega),
    utf8Tail_cons (by omega) (by omega) (by omega), joined]
  rfl

end widths

/-- The bytes of a character are one piece, which is the character. -/
theorem utf8Piece_utf8Character
    (c : Char) :
    ∃ byte others, utf8Character c = byte :: others ∧
      ∀ rest, utf8Piece byte (others ++ rest) = ⟨some c, others.length + 1⟩ := by
  have valid : c.toNat < 0xD800 ∨ 0xDFFF < c.toNat ∧ c.toNat < 0x110000 :=
    c.valid
  have self (length : Nat) :
      Utf8Piece.mk (some (Char.ofNat c.toNat)) length = ⟨some c, length⟩ := by
    rw [Char.ofNat_toNat]
  unfold utf8Character
  dsimp only
  split
  next one =>
    exact ⟨_, _, rfl, fun rest => (utf8Piece_one rest one).trans (self 1)⟩
  next beyondOne =>
    split
    next two =>
      exact ⟨_, _, rfl, fun rest =>
        (utf8Piece_two rest (Nat.le_of_not_lt beyondOne) two).trans (self 2)⟩
    next beyondTwo =>
      split
      next three =>
        exact ⟨_, _, rfl, fun rest =>
          (utf8Piece_three rest (Nat.le_of_not_lt beyondTwo) three
            (valid.imp_right And.left)).trans (self 3)⟩
      next beyondThree =>
        exact ⟨_, _, rfl, fun rest =>
          (utf8Piece_four rest (Nat.le_of_not_lt beyondThree)
            (by omega)).trans (self 4)⟩

/-! ## Texts -/

/-- The other bytes of a piece are passed over. -/
theorem utf8PiecesAfter_length_append
    (others rest : Bytes) :
    utf8PiecesAfter others.length (others ++ rest) = utf8PiecesAfter 0 rest := by
  induction others with
  | nil =>
      rfl
  | cons byte others inductionHypothesis =>
      exact inductionHypothesis

theorem utf8PiecesAfter_utf8Character
    (c : Char)
    (rest : Bytes) :
    utf8PiecesAfter 0 (utf8Character c ++ rest) =
      some c :: utf8PiecesAfter 0 rest := by
  obtain ⟨byte, others, shape, piece⟩ := utf8Piece_utf8Character c
  rw [shape, List.cons_append, utf8PiecesAfter, piece]
  exact congrArg _ (utf8PiecesAfter_length_append others rest)

/-- The bytes of a text are read as its characters. -/
theorem utf8PiecesAfter_utf8
    (text : Text) :
    utf8PiecesAfter 0 (utf8 text) = text.map some := by
  induction text with
  | nil =>
      rfl
  | cons c rest inductionHypothesis =>
      unfold utf8 at inductionHypothesis ⊢
      rw [List.flatMap_cons, utf8PiecesAfter_utf8Character, inductionHypothesis,
        List.map_cons]

/-- A text is read from its bytes without a replacement. -/
theorem ofUtf8Lossy_utf8
    (text : Text) :
    ofUtf8Lossy (utf8 text) = text := by
  unfold ofUtf8Lossy
  rw [utf8PiecesAfter_utf8, List.map_map]
  exact List.map_id text

end ContractTemplates.Text
