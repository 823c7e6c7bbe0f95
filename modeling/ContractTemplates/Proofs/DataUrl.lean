import ContractTemplates.DataUrl
import Mathlib.Data.List.GetD
import Mathlib.Logic.Function.Defs

namespace ContractTemplates

/-!
# Documents in addresses

Three bytes and four symbols hold the same twenty-four bits, and a last group that is not
full is filled up to four characters. So both ways of reading a payload give back the bytes
that were written, and an address holds its document without loss:
`DataUrl.ofDocument_lossless`.
-/

namespace Base64

variable
  {value a b c : Nat}
  {p q r s : Nat}
  {rest : Text}

/-! ## Symbols -/

theorem value?_symbol
    (small : value < 64) :
    value? (symbol value) = some value := by
  have every : ∀ value < 64, value? (symbol value) = some value := by
    decide +kernel
  exact every value small

theorem symbol_mem_alphabet
    (small : value < 64) :
    symbol value ∈ alphabet := by
  have within : value < alphabet.length := small
  rw [symbol, List.getD_eq_getElem _ _ within]
  exact List.getElem_mem within

theorem fill_not_mem_alphabet : '=' ∉ alphabet := by
  decide

theorem symbol_ne_fill
    (small : value < 64) :
    symbol value ≠ '=' := by
  intro same
  exact fill_not_mem_alphabet (same ▸ symbol_mem_alphabet small)

/-! ## Groups -/

theorem decode?_group
    (pSmall : p < 64)
    (qSmall : q < 64)
    (rSmall : r < 64)
    (sSmall : s < 64)
    (rest : Text) :
    decode? (symbol p :: symbol q :: symbol r :: symbol s :: rest) =
      (decode? rest).map fun bytes =>
        UInt8.ofNat (p * 4 + q / 16) ::
          UInt8.ofNat (q % 16 * 16 + r / 4) ::
          UInt8.ofNat (r % 4 * 64 + s) :: bytes := by
  have full := symbol_ne_fill sSmall
  rw [decode?]
  · cases decode? rest <;>
      simp [value?_symbol, pSmall, qSmall, rSmall, sSmall]
  · simp [full]
  · simp [full]

theorem decode?_two
    (pSmall : p < 64)
    (qSmall : q < 64) :
    decode? [symbol p, symbol q, '=', '='] = some [UInt8.ofNat (p * 4 + q / 16)] := by
  simp [decode?, value?_symbol, pSmall, qSmall]

theorem decode?_three
    (pSmall : p < 64)
    (qSmall : q < 64)
    (rSmall : r < 64) :
    decode? [symbol p, symbol q, symbol r, '='] =
      some [UInt8.ofNat (p * 4 + q / 16), UInt8.ofNat (q % 16 * 16 + r / 4)] := by
  have full := symbol_ne_fill rSmall
  rw [decode?]
  · simp [value?_symbol, pSmall, qSmall, rSmall]
  · simp [full]

/-- A symbol is taken into the group that it belongs to. -/
theorem decodeLenientFrom_symbol
    (small : value < 64)
    (held : List Nat)
    (short : held.length < 3)
    (rest : Text) :
    decodeLenientFrom held 0 (symbol value :: rest) =
      decodeLenientFrom (held ++ [value]) 0 rest := by
  match held with
  | [] | [_] | [_, _] =>
      simp [decodeLenientFrom, symbol_ne_fill small, value?_symbol small]
  | _ :: _ :: _ :: _ =>
      simp at short
      omega

theorem decodeLenient?_group
    (pSmall : p < 64)
    (qSmall : q < 64)
    (rSmall : r < 64)
    (sSmall : s < 64)
    (rest : Text) :
    decodeLenient? (symbol p :: symbol q :: symbol r :: symbol s :: rest) =
      (decodeLenient? rest).map fun bytes =>
        UInt8.ofNat (p * 4 + q / 16) ::
          UInt8.ofNat (q % 16 * 16 + r / 4) ::
          UInt8.ofNat (r % 4 * 64 + s) :: bytes := by
  rw [decodeLenient?, decodeLenientFrom_symbol pSmall [] (by simp),
    decodeLenientFrom_symbol qSmall _ (by simp),
    decodeLenientFrom_symbol rSmall _ (by simp)]
  simp [decodeLenient?, decodeLenientFrom, symbol_ne_fill sSmall, value?_symbol sSmall]

theorem decodeLenient?_two
    (pSmall : p < 64)
    (qSmall : q < 64) :
    decodeLenient? [symbol p, symbol q, '=', '='] =
      some [UInt8.ofNat (p * 4 + q / 16)] := by
  rw [decodeLenient?, decodeLenientFrom_symbol pSmall [] (by simp),
    decodeLenientFrom_symbol qSmall _ (by simp)]
  simp [decodeLenientFrom]

theorem decodeLenient?_three
    (pSmall : p < 64)
    (qSmall : q < 64)
    (rSmall : r < 64) :
    decodeLenient? [symbol p, symbol q, symbol r, '='] =
      some [UInt8.ofNat (p * 4 + q / 16), UInt8.ofNat (q % 16 * 16 + r / 4)] := by
  rw [decodeLenient?, decodeLenientFrom_symbol pSmall [] (by simp),
    decodeLenientFrom_symbol qSmall _ (by simp),
    decodeLenientFrom_symbol rSmall _ (by simp)]
  simp [decodeLenientFrom]

/-! ## Payloads -/

/-- The first byte of a group from the first six bits and the next two. -/
theorem ofNat_first
    (a : UInt8)
    (low : Nat)
    (small : low < 16) :
    UInt8.ofNat (a.toNat / 4 * 4 + (a.toNat % 4 * 16 + low) / 16) = a := by
  have same : a.toNat / 4 * 4 + (a.toNat % 4 * 16 + low) / 16 = a.toNat := by
    omega
  rw [same, UInt8.ofNat_toNat]

/-- The second byte of a group from four bits of one symbol and four of the next. -/
theorem ofNat_second
    (b : UInt8)
    (high low : Nat)
    (small : low < 4) :
    UInt8.ofNat
        ((high * 16 + b.toNat / 16) % 16 * 16 + (b.toNat % 16 * 4 + low) / 4) = b := by
  have bounded := b.toNat_lt
  have same :
      (high * 16 + b.toNat / 16) % 16 * 16 + (b.toNat % 16 * 4 + low) / 4 = b.toNat := by
    omega
  rw [same, UInt8.ofNat_toNat]

/-- The third byte of a group from two bits of one symbol and the six of the last. -/
theorem ofNat_third
    (c : UInt8)
    (high : Nat) :
    UInt8.ofNat ((high * 4 + c.toNat / 64) % 4 * 64 + c.toNat % 64) = c := by
  have bounded := c.toNat_lt
  have same : (high * 4 + c.toNat / 64) % 4 * 64 + c.toNat % 64 = c.toNat := by
    omega
  rw [same, UInt8.ofNat_toNat]

/-- The number of characters that fill up the last group. -/
def fillLength (bytes : Bytes) : Nat :=
  (3 - bytes.length % 3) % 3

/--
Whether a text is a payload for bytes: four characters for every three bytes that are begun,
all of them symbols but for those at the end that fill up the last group, and the bytes
themselves for either way of reading.
-/
structure IsPayload (bytes : Bytes) (payload : Text) : Prop where
  length : payload.length = 4 * ((bytes.length + 2) / 3)
  filled :
    ∃ symbols,
      payload = symbols ++ List.replicate (fillLength bytes) '=' ∧
        ∀ c ∈ symbols, c ∈ alphabet
  read : decode? payload = some bytes
  readLeniently : decodeLenient? payload = some bytes

theorem isPayload_nil : IsPayload [] [] where
  length := rfl
  filled := ⟨[], rfl, by simp⟩
  read := rfl
  readLeniently := rfl

theorem isPayload_one
    (a : UInt8) :
    IsPayload [a] (encode [a]) where
  length := by
    simp [encode]
  filled := by
    have bounded := a.toNat_lt
    refine ⟨[symbol (a.toNat / 4), symbol (a.toNat % 4 * 16)], rfl, ?_⟩
    simp only [List.forall_mem_cons]
    refine ⟨symbol_mem_alphabet (by omega), symbol_mem_alphabet (by omega), by simp⟩
  read := by
    have bounded := a.toNat_lt
    rw [encode, decode?_two (by omega) (by omega)]
    exact congrArg (some [·]) (ofNat_first a 0 (by decide))
  readLeniently := by
    have bounded := a.toNat_lt
    rw [encode, decodeLenient?_two (by omega) (by omega)]
    exact congrArg (some [·]) (ofNat_first a 0 (by decide))

theorem isPayload_two
    (a b : UInt8) :
    IsPayload [a, b] (encode [a, b]) where
  length := by
    simp [encode]
  filled := by
    have bounded := a.toNat_lt
    have boundedToo := b.toNat_lt
    refine ⟨[symbol (a.toNat / 4), symbol (a.toNat % 4 * 16 + b.toNat / 16),
      symbol (b.toNat % 16 * 4)], rfl, ?_⟩
    simp only [List.forall_mem_cons]
    refine ⟨symbol_mem_alphabet (by omega), symbol_mem_alphabet (by omega),
      symbol_mem_alphabet (by omega), by simp⟩
  read := by
    have bounded := a.toNat_lt
    have boundedToo := b.toNat_lt
    rw [encode, decode?_three (by omega) (by omega) (by omega)]
    have second := ofNat_second b (a.toNat % 4) 0 (by decide)
    rw [Nat.add_zero] at second
    rw [ofNat_first a _ (by omega), second]
  readLeniently := by
    have bounded := a.toNat_lt
    have boundedToo := b.toNat_lt
    rw [encode, decodeLenient?_three (by omega) (by omega) (by omega)]
    have second := ofNat_second b (a.toNat % 4) 0 (by decide)
    rw [Nat.add_zero] at second
    rw [ofNat_first a _ (by omega), second]

/-- Three more bytes in front are one more group in front. -/
theorem IsPayload.group
    {rest : Bytes}
    (a b c : UInt8)
    (later : IsPayload rest (encode rest)) :
    IsPayload (a :: b :: c :: rest) (encode (a :: b :: c :: rest)) where
  length := by
    simp only [encode, List.length_cons, later.length]
    omega
  filled := by
    have bounded := a.toNat_lt
    have boundedToo := b.toNat_lt
    have boundedLast := c.toNat_lt
    obtain ⟨symbols, shape, inAlphabet⟩ := later.filled
    have same : fillLength (a :: b :: c :: rest) = fillLength rest := by
      simp [fillLength, Nat.add_mod_right, Nat.add_assoc]
    refine ⟨symbol (a.toNat / 4) :: symbol (a.toNat % 4 * 16 + b.toNat / 16) ::
      symbol (b.toNat % 16 * 4 + c.toNat / 64) :: symbol (c.toNat % 64) :: symbols,
      ?_, ?_⟩
    · simp [encode, shape, same]
    · simp only [List.forall_mem_cons]
      exact ⟨symbol_mem_alphabet (by omega), symbol_mem_alphabet (by omega),
        symbol_mem_alphabet (by omega), symbol_mem_alphabet (by omega), inAlphabet⟩
  read := by
    have bounded := a.toNat_lt
    have boundedToo := b.toNat_lt
    have boundedLast := c.toNat_lt
    rw [encode, decode?_group (by omega) (by omega) (by omega) (by omega),
      ofNat_first a _ (by omega), ofNat_second b _ _ (by omega), ofNat_third,
      later.read]
    rfl
  readLeniently := by
    have bounded := a.toNat_lt
    have boundedToo := b.toNat_lt
    have boundedLast := c.toNat_lt
    rw [encode, decodeLenient?_group (by omega) (by omega) (by omega) (by omega),
      ofNat_first a _ (by omega), ofNat_second b _ _ (by omega), ofNat_third,
      later.readLeniently]
    rfl

/-- What is written for bytes is a payload for them. -/
theorem isPayload_encode
    (bytes : Bytes) :
    IsPayload bytes (encode bytes) := by
  induction bytes using encode.induct with
  | case1 =>
      exact isPayload_nil
  | case2 a =>
      exact isPayload_one a
  | case3 a b =>
      exact isPayload_two a b
  | case4 a b c rest later =>
      exact later.group a b c

end Base64

namespace DataUrl

/-- What every address of a document begins with. -/
def documentHead : Text :=
  "data:application/pdf;base64,".toList

theorem ofDocument_eq
    (document : Bytes) :
    ofDocument document = documentHead ++ Base64.encode document :=
  rfl

/--
The address of a document is a fixed head and a payload for the document, so no two documents
have the same address.
-/
theorem ofDocument_lossless :
    (∀ document, ∃ payload,
      ofDocument document = documentHead ++ payload ∧
        Base64.IsPayload document payload) ∧
      Function.Injective ofDocument := by
  constructor
  · intro document
    exact ⟨_, ofDocument_eq document, Base64.isPayload_encode document⟩
  · intro document other same
    rw [ofDocument_eq, ofDocument_eq] at same
    have payloads := List.append_cancel_left same
    have read := (Base64.isPayload_encode document).read
    rw [payloads, (Base64.isPayload_encode other).read] at read
    exact (Option.some.inj read).symm

end DataUrl

end ContractTemplates
