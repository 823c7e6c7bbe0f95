import ContractTemplates.Text.Digit

namespace ContractTemplates

/-!
# Byte strings

Files, streams and documents are lists of bytes. `Bytes.hex` writes a byte
string with two lowercase hexadecimal digits for each byte, and `Bytes.ofHex?`
reads that form.
-/

/-- A string of bytes. -/
abbrev Bytes := List UInt8

namespace Bytes

/-- Two hexadecimal digits for each byte. -/
def hex (bytes : Bytes) : Text :=
  bytes.flatMap fun byte =>
    [(byte.toNat / 16).digitChar, (byte.toNat % 16).digitChar]

/-- Reads two hexadecimal digits for each byte. -/
def ofHex? : Text → Option Bytes
  | [] => some []
  | [_] => none
  | high :: low :: rest => do
      let high ← Text.hexValue? high
      let low ← Text.hexValue? low
      let bytes ← ofHex? rest
      some (UInt8.ofNat (high * 16 + low) :: bytes)

end Bytes

end ContractTemplates
