import ContractTemplates.Bytes

namespace ContractTemplates.Base64

/-!
# Base64

Three bytes are written as four symbols of an alphabet of sixty-four, and one
or two last bytes as two or three symbols filled up with `=`. `decode?` takes
exactly such texts apart again; `decodeLenient?` also passes over characters
outside the alphabet, as in binary values of metadata blocks.
-/

/-- The symbols in the order of their values. -/
def alphabet : Text :=
  "ABCDEFGHIJKLMNOPQRSTUVWXYZabcdefghijklmnopqrstuvwxyz0123456789+/".toList

/-- The symbol of a value below sixty-four. -/
def symbol (value : Nat) : Char :=
  alphabet.getD value '='

/-- The value of a symbol. -/
def value? (c : Char) : Option Nat :=
  if c.isUpper then
    some (c.toNat - 'A'.toNat)
  else if c.isLower then
    some (c.toNat - 'a'.toNat + 26)
  else if c.isDigit then
    some (c.toNat - '0'.toNat + 52)
  else if c = '+' then
    some 62
  else if c = '/' then
    some 63
  else
    none

/-- Writes bytes in groups of three. -/
def encode : Bytes → Text
  | [] => []
  | [a] =>
      [symbol (a.toNat / 4), symbol (a.toNat % 4 * 16), '=', '=']
  | [a, b] =>
      [symbol (a.toNat / 4), symbol (a.toNat % 4 * 16 + b.toNat / 16),
        symbol (b.toNat % 16 * 4), '=']
  | a :: b :: c :: rest =>
      symbol (a.toNat / 4) :: symbol (a.toNat % 4 * 16 + b.toNat / 16) ::
        symbol (b.toNat % 16 * 4 + c.toNat / 64) :: symbol (c.toNat % 64) ::
          encode rest

/-- Reads groups of four symbols, of which the last may be filled up. -/
def decode? : Text → Option Bytes
  | [] => some []
  | [p, q, '=', '='] => do
      let p ← value? p
      let q ← value? q
      some [UInt8.ofNat (p * 4 + q / 16)]
  | [p, q, r, '='] => do
      let p ← value? p
      let q ← value? q
      let r ← value? r
      some [UInt8.ofNat (p * 4 + q / 16), UInt8.ofNat (q % 16 * 16 + r / 4)]
  | p :: q :: r :: s :: rest => do
      let p ← value? p
      let q ← value? q
      let r ← value? r
      let s ← value? s
      let bytes ← decode? rest
      some
        (UInt8.ofNat (p * 4 + q / 16) ::
          UInt8.ofNat (q % 16 * 16 + r / 4) ::
          UInt8.ofNat (r % 4 * 64 + s) :: bytes)
  | _ => none

/--
Reads symbols and passes over all other characters.

`held` are the values of the group so far and `fills` counts the `=` since the
last symbol. A group of two or three symbols that is filled up ends the text; a
text that ends inside a group is refused.
-/
def decodeLenientFrom (held : List Nat) (fills : Nat) : Text → Option Bytes
  | [] => if held = [] then some [] else none
  | c :: rest =>
      if c = '=' then
        if 2 ≤ held.length then
          if 4 ≤ held.length + fills + 1 then
            match held with
            | [p, q] => some [UInt8.ofNat (p * 4 + q / 16)]
            | [p, q, r] =>
                some
                  [UInt8.ofNat (p * 4 + q / 16),
                    UInt8.ofNat (q % 16 * 16 + r / 4)]
            | _ => none
          else
            decodeLenientFrom held (fills + 1) rest
        else
          decodeLenientFrom held fills rest
      else
        match value? c with
        | none => decodeLenientFrom held fills rest
        | some s =>
            match held with
            | [p, q, r] =>
                (decodeLenientFrom [] 0 rest).map fun bytes =>
                  UInt8.ofNat (p * 4 + q / 16) ::
                    UInt8.ofNat (q % 16 * 16 + r / 4) ::
                    UInt8.ofNat (r % 4 * 64 + s) :: bytes
            | _ => decodeLenientFrom (held ++ [s]) 0 rest

/-- The bytes of a text of symbols with other characters in between. -/
def decodeLenient? (text : Text) : Option Bytes :=
  decodeLenientFrom [] 0 text

end ContractTemplates.Base64
