import ContractTemplates.Proofs.Text.Utf8
import ContractTemplates.Service.Route
import ContractTemplates.Service.Target

namespace ContractTemplates

/-!
# Percent-encoded names on a path

A name on a path is spelled by characters that stand for themselves and by the codes
of bytes. `Target.Spells` allows every such spelling. Whichever is used, a path below
the base leads to the base with the spelled name after it.
-/

namespace Text

theorem utf8_append
    (first second : Text) :
    utf8 (first ++ second) = utf8 first ++ utf8 second :=
  List.flatMap_append

end Text

namespace Target

/-- Whether a text between slashes is a percent-encoding of these bytes. -/
inductive Spells : Text → Bytes → Prop where
  | nil : Spells [] []
  | plain
      {c : Char}
      {rest : Text}
      {bytes : Bytes}
      (noPercent : c ≠ '%')
      (noSlash : c ≠ '/')
      (others : Spells rest bytes) :
      Spells (c :: rest) (Text.utf8Character c ++ bytes)
  | code
      {high low : Char}
      {highValue lowValue : Nat}
      {rest : Text}
      {bytes : Bytes}
      (highDigit : Text.hexValue? high = some highValue)
      (lowDigit : Text.hexValue? low = some lowValue)
      (others : Spells rest bytes) :
      Spells ('%' :: high :: low :: rest)
        (UInt8.ofNat (highValue * 16 + lowValue) :: bytes)

theorem decodedBytes_cons
    {c : Char}
    (noPercent : c ≠ '%')
    (rest : Text) :
    decodedBytes (c :: rest) = Text.utf8Character c ++ decodedBytes rest := by
  rw [decodedBytes]
  rintro high low later rfl
  exact absurd rfl noPercent

/-- Text without percent signs stands for itself before any other text. -/
theorem decodedBytes_append
    {lead : Text}
    (noPercent : '%' ∉ lead)
    (rest : Text) :
    decodedBytes (lead ++ rest) = Text.utf8 lead ++ decodedBytes rest := by
  induction lead with
  | nil =>
      rfl
  | cons c lead inductionHypothesis =>
      obtain ⟨first, others⟩ := List.ne_and_not_mem_of_not_mem_cons noPercent
      rw [List.cons_append, decodedBytes_cons (Ne.symm first),
        inductionHypothesis others, ← List.append_assoc]
      rfl

namespace Spells

variable
  {written : Text}
  {bytes : Bytes}

/-- A spelling is decoded to the bytes that it spells. -/
theorem decodedBytes_eq
    (spelled : Spells written bytes) :
    decodedBytes written = bytes := by
  induction spelled with
  | nil =>
      rfl
  | plain noPercent noSlash others inductionHypothesis =>
      rw [decodedBytes_cons noPercent, inductionHypothesis]
  | code highDigit lowDigit others inductionHypothesis =>
      rw [decodedBytes, highDigit, lowDigit]
      dsimp only
      rw [inductionHypothesis]

end Spells

theorem hexValue?_digitChar
    {value : Nat}
    (small : value < 16) :
    Text.hexValue? value.digitChar.toUpper = some value := by
  have cases :
      ∀ n, n < 16 → Text.hexValue? (Nat.digitChar n).toUpper = some n := by
    decide
  exact cases value small

/-- Codes of all bytes are a spelling, so everything can be spelled. -/
theorem spells_escaped
    (bytes : Bytes) :
    Spells (bytes.flatMap escapedByte) bytes := by
  induction bytes with
  | nil =>
      exact .nil
  | cons byte rest inductionHypothesis =>
      have small : byte.toNat < 256 :=
        byte.toNat_lt
      have smallHigh : byte.toNat / 16 < 16 := by
        omega
      have smallLow : byte.toNat % 16 < 16 := by
        omega
      have high := hexValue?_digitChar smallHigh
      have low := hexValue?_digitChar smallLow
      have joined :
          UInt8.ofNat (byte.toNat / 16 * 16 + byte.toNat % 16) = byte := by
        rw [Nat.div_add_mod']
        exact UInt8.ofNat_toNat
      have spelled := Spells.code high low inductionHypothesis
      rw [joined] at spelled
      exact spelled

/-! ## Paths below the base -/

variable
  {written : Text}

/-- A path below the base leads to what its last name spells. -/
theorem place_of_spells
    {text : Text}
    (spelled : Spells written (Text.utf8 text))
    (query : Text) :
    place ⟨Route.base ++ written, query⟩ = Route.base ++ text := by
  have noPercent : '%' ∉ Route.base := by
    decide
  unfold place decoded
  rw [decodedBytes_append noPercent, spelled.decodedBytes_eq, ← Text.utf8_append,
    Text.ofUtf8Lossy_utf8]

end Target

end ContractTemplates
