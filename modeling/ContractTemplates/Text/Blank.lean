import ContractTemplates.Text.Basic

namespace ContractTemplates.Text

/-!
# Blank characters

Two classes of blank characters are in use. `isSpace` is the Unicode property
`White_Space`; it surrounds numerals. `isBlank` adds the four information
separators U+001C to U+001F, which also count as blank wherever running text is
trimmed, so that every space is blank and not the other way round.
-/

/-- The Unicode property `White_Space`. -/
def isSpace (c : Char) : Bool :=
  let code := c.toNat
  (9 ≤ code && code ≤ 13) || code = 0x20 || code = 0x85 || code = 0xA0 ||
    code = 0x1680 || (0x2000 ≤ code && code ≤ 0x200A) || code = 0x2028 ||
    code = 0x2029 || code = 0x202F || code = 0x205F || code = 0x3000

/-- A space, or one of the information separators U+001C to U+001F. -/
def isBlank (c : Char) : Bool :=
  isSpace c || (0x1C ≤ c.toNat && c.toNat ≤ 0x1F)

/-- A space or a tab, the blanks that stay on one line. -/
def isLineBlank (c : Char) : Bool :=
  c = ' ' || c = '\t'

/-- The text without the characters of a class at either end. -/
def trimmed (drop : Char → Bool) (text : Text) : Text :=
  ((text.dropWhile drop).reverse.dropWhile drop).reverse

/-- The text without blanks at either end. -/
def strip (text : Text) : Text :=
  text.trimmed isBlank

end ContractTemplates.Text
