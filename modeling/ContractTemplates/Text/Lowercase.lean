import ContractTemplates.Text.Basic
import ContractTemplates.Text.Lowercase.Table

namespace ContractTemplates.Text

/-!
# Lowercase text

The lowercase form of a text in the sense of Unicode, without regard to
language. Every character has a form of its own, except for the capital sigma,
whose form depends on whether it ends a word, and the capital I with a dot,
whose form is two characters.
-/

/-- Whether a character lies in one of the ranges. -/
def inRanges (ranges : List (Nat × Nat)) (c : Char) : Bool :=
  ranges.any fun range => range.1 ≤ c.toNat && c.toNat ≤ range.2

/-- Whether the first character that is not case-ignorable is cased. -/
def meetsCased (text : Text) : Bool :=
  match text.dropWhile (inRanges caseIgnorableRanges) with
  | [] => false
  | c :: _ => inRanges casedRanges c

/-- The lowercase form of a character that does not depend on its neighbours. -/
def lowercaseCharacter (c : Char) : Text :=
  if c.toNat = 0x130 then
    ['i', Char.ofNat 0x307]
  else
    match lowercaseRuns.find? fun run =>
        run.first ≤ c.toNat && c.toNat ≤ run.last &&
          (c.toNat - run.first) % run.step = 0 with
    | some run => [Char.ofNat (c.toNat + run.shift).toNat]
    | none => [c]

/-- Lowers the rest of a text, given the characters before it in reverse. -/
def lowercaseAfter (before : Text) : Text → Text
  | [] => []
  | c :: rest =>
      let form :=
        if c.toNat = 0x3A3 then
          if meetsCased before && !meetsCased rest then
            [Char.ofNat 0x3C2]
          else
            [Char.ofNat 0x3C3]
        else
          lowercaseCharacter c
      form ++ lowercaseAfter (c :: before) rest

/-- The lowercase form of a text. -/
def lowercase (text : Text) : Text :=
  lowercaseAfter [] text

end ContractTemplates.Text
