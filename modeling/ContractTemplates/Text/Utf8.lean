import ContractTemplates.Bytes

namespace ContractTemplates.Text

/-!
# UTF-8

`utf8` writes a text as bytes. Reading bytes goes piece by piece: a piece is
either the bytes of one character or a longest run of bytes that begins a
character and is broken off. `ofUtf8?` accepts only characters, and
`ofUtf8Lossy` puts one replacement character in the place of each broken piece.
-/

/-- The bytes of a character. -/
def utf8Character (c : Char) : Bytes :=
  let code := c.toNat
  if code < 0x80 then
    [UInt8.ofNat code]
  else if code < 0x800 then
    [UInt8.ofNat (0xC0 + code / 0x40), UInt8.ofNat (0x80 + code % 0x40)]
  else if code < 0x10000 then
    [UInt8.ofNat (0xE0 + code / 0x1000),
      UInt8.ofNat (0x80 + code / 0x40 % 0x40),
      UInt8.ofNat (0x80 + code % 0x40)]
  else
    [UInt8.ofNat (0xF0 + code / 0x40000),
      UInt8.ofNat (0x80 + code / 0x1000 % 0x40),
      UInt8.ofNat (0x80 + code / 0x40 % 0x40),
      UInt8.ofNat (0x80 + code % 0x40)]

/-- The bytes of a text. -/
def utf8 (text : Text) : Bytes :=
  text.flatMap utf8Character

/-- What a first byte promises of the bytes after it. -/
structure Utf8Lead where
  /-- The bits of the character that the first byte holds. -/
  bits : Nat
  /-- How many bytes are to follow. -/
  following : Nat
  /-- The least value of the second byte. -/
  least : Nat
  /-- The greatest value of the second byte. -/
  greatest : Nat

/-- What a byte promises as a first byte, if it can be one. -/
def utf8Lead? (byte : Nat) : Option Utf8Lead :=
  if byte < 0x80 then
    some ⟨byte, 0, 0, 0⟩
  else if byte < 0xC2 then
    none
  else if byte < 0xE0 then
    some ⟨byte - 0xC0, 1, 0x80, 0xBF⟩
  else if byte = 0xE0 then
    some ⟨0, 2, 0xA0, 0xBF⟩
  else if byte = 0xED then
    some ⟨0xD, 2, 0x80, 0x9F⟩
  else if byte < 0xF0 then
    some ⟨byte - 0xE0, 2, 0x80, 0xBF⟩
  else if byte = 0xF0 then
    some ⟨0, 3, 0x90, 0xBF⟩
  else if byte < 0xF4 then
    some ⟨byte - 0xF0, 3, 0x80, 0xBF⟩
  else if byte = 0xF4 then
    some ⟨4, 3, 0x80, 0x8F⟩
  else
    none

/-- One character, or a run of bytes that is none, with its length in bytes. -/
structure Utf8Piece where
  character : Option Char
  length : Nat

/-- Reads the bytes that follow a first byte; `length` counts the bytes before. -/
def utf8Tail (code length : Nat) :
    (following least greatest : Nat) → Bytes → Utf8Piece
  | 0, _, _, _ => ⟨some (Char.ofNat code), length⟩
  | _ + 1, _, _, [] => ⟨none, length⟩
  | following + 1, least, greatest, byte :: rest =>
      if least ≤ byte.toNat ∧ byte.toNat ≤ greatest then
        utf8Tail (code * 0x40 + byte.toNat % 0x40) (length + 1)
          following 0x80 0xBF rest
      else
        ⟨none, length⟩

/-- The piece that a non-empty byte string begins with. -/
def utf8Piece (byte : UInt8) (rest : Bytes) : Utf8Piece :=
  match utf8Lead? byte.toNat with
  | some lead => utf8Tail lead.bits 1 lead.following lead.least lead.greatest rest
  | none => ⟨none, 1⟩

/-- The pieces of a byte string after `skip` bytes of an earlier piece. -/
def utf8PiecesAfter : Nat → Bytes → List (Option Char)
  | _, [] => []
  | skip + 1, _ :: rest => utf8PiecesAfter skip rest
  | 0, byte :: rest =>
      let piece := utf8Piece byte rest
      piece.character :: utf8PiecesAfter (piece.length - 1) rest

/-- The text that a byte string encodes, if it encodes one. -/
def ofUtf8? (bytes : Bytes) : Option Text :=
  (utf8PiecesAfter 0 bytes).mapM id

/-- The text of a byte string with a replacement character for each broken piece. -/
def ofUtf8Lossy (bytes : Bytes) : Text :=
  (utf8PiecesAfter 0 bytes).map (·.getD (Char.ofNat 0xFFFD))

end ContractTemplates.Text
