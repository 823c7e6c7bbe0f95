import ContractTemplates.Text.Basic

namespace ContractTemplates.Host

/-!
# Patterns of lines

A pattern is a list of alternatives, and an alternative is a list of parts, each
of which accepts one character and may be repeated. It may be bound to the start
or to the end of a line. `Alternative.accepts` follows all ways of matching at
once, so no way is tried twice and none is forgotten.
-/

/-- The characters that a part of a pattern accepts. -/
inductive CharacterSet where
  | any
  | only (c : Char)
  /-- The characters of some ranges, or all others. -/
  | ranges (negated : Bool) (members : List (Char × Char))
  deriving DecidableEq, Repr

/-- How often a part occurs. -/
inductive Repetition where
  | once
  | optional
  | anyNumber
  | atLeastOnce
  deriving DecidableEq, Repr

/-- A set of characters with how often they occur. -/
structure PatternPart where
  set : CharacterSet
  repetition : Repetition
  deriving DecidableEq, Repr

/-- One way in which a line can have a pattern. -/
structure Alternative where
  fromStart : Bool
  toEnd : Bool
  parts : List PatternPart
  deriving DecidableEq, Repr

/-- Whether a character belongs to a set. -/
def CharacterSet.contains (set : CharacterSet) (c : Char) : Bool :=
  match set with
  | any => true
  | only d => c = d
  | ranges negated members =>
      (members.any fun (low, high) => low ≤ c && c ≤ high) != negated

namespace PatternPart

/-- What can be left of a text after any number of characters of a set. -/
def afterMany (set : CharacterSet) : Text → List Text
  | [] => [[]]
  | c :: rest =>
      (c :: rest) :: if set.contains c then afterMany set rest else []

/-- What can be left of a text after one character of a set. -/
def afterOne (set : CharacterSet) : Text → List Text
  | [] => []
  | c :: rest => if set.contains c then [rest] else []

/-- What can be left of a text after a part. -/
def after (part : PatternPart) (text : Text) : List Text :=
  match part.repetition with
  | .once => afterOne part.set text
  | .optional => text :: afterOne part.set text
  | .anyNumber => afterMany part.set text
  | .atLeastOnce => (afterOne part.set text).flatMap (afterMany part.set)

end PatternPart

/-- Whether a line has the pattern of an alternative. -/
def Alternative.accepts (alternative : Alternative) (text : Text) : Bool :=
  let starts := if alternative.fromStart then [text] else text.suffixes
  let remainders := alternative.parts.foldl
    (fun texts part => (texts.flatMap part.after).eraseDups) starts
  remainders.any fun rest => ¬ alternative.toEnd ∨ rest = []

/-- The ranges that are written one after the other. -/
def rangesOf : Text → List (Char × Char)
  | low :: '-' :: high :: rest => (low, high) :: rangesOf rest
  | c :: rest => (c, c) :: rangesOf rest
  | [] => []

/-- The ranges up to a closing bracket, which may also be the first member. -/
def bracketRanges (text : Text) : List (Char × Char) × Text :=
  let (inside, later) := Text.cut ']' (text.drop 1)
  (rangesOf (text.take 1 ++ inside), later.getD [])

/-- The repetition that a text begins with, and the text after it. -/
def repetitionOf (extended : Bool) : Text → Repetition × Text
  | '*' :: rest => (.anyNumber, rest)
  | '\\' :: '+' :: rest =>
      if extended then (.once, '\\' :: '+' :: rest) else (.atLeastOnce, rest)
  | '\\' :: '?' :: rest =>
      if extended then (.once, '\\' :: '?' :: rest) else (.optional, rest)
  | '+' :: rest =>
      if extended then (.atLeastOnce, rest) else (.once, '+' :: rest)
  | '?' :: rest =>
      if extended then (.optional, rest) else (.once, '?' :: rest)
  | rest => (.once, rest)

/-- The set that a text begins with, and the text after it. -/
def characterSetOf : Text → CharacterSet × Text
  | '.' :: rest => (.any, rest)
  | '\\' :: c :: rest => (.only c, rest)
  | '[' :: '^' :: rest =>
      let (members, later) := bracketRanges rest
      (.ranges true members, later)
  | '[' :: rest =>
      let (members, later) := bracketRanges rest
      (.ranges false members, later)
  | c :: rest => (.only c, rest)
  | [] => (.any, [])

/-- The parts of an alternative and whether it is bound to the end. -/
def partsOf (extended : Bool) : Nat → Text → List PatternPart × Bool
  | 0, _ => ([], false)
  | _, [] => ([], false)
  | _, ['$'] => ([], true)
  | fuel + 1, text =>
      let (set, afterSet) := characterSetOf text
      let (repetition, later) := repetitionOf extended afterSet
      let (parts, toEnd) := partsOf extended fuel later
      (⟨set, repetition⟩ :: parts, toEnd)

/-- The alternative that a text describes. -/
def alternativeOf (extended : Bool) (text : Text) : Alternative :=
  let (fromStart, body) :=
    match text with
    | '^' :: rest => (true, rest)
    | _ => (false, text)
  let (parts, toEnd) := partsOf extended text.length body
  ⟨fromStart, toEnd, parts⟩

/-- The texts between the marks of alternatives. -/
def alternativeTexts (extended : Bool) : Text → List Text
  | [] => [[]]
  | '\\' :: c :: rest =>
      let later := alternativeTexts extended rest
      if c = '|' ∧ ¬ extended then
        [] :: later
      else
        ('\\' :: c :: later.headD []) :: later.drop 1
  | c :: rest =>
      let later := alternativeTexts extended rest
      if c = '|' ∧ extended then
        [] :: later
      else
        (c :: later.headD []) :: later.drop 1

/-- The alternatives that a text describes. -/
def patternOf (extended : Bool) (text : Text) : List Alternative :=
  (alternativeTexts extended text).map (alternativeOf extended)

/-- The parts of a form, in which a star stands for any text. -/
def formParts : Nat → Text → List PatternPart
  | 0, _ => []
  | _, [] => []
  | fuel + 1, '*' :: rest => ⟨.any, .anyNumber⟩ :: formParts fuel rest
  | fuel + 1, '?' :: rest => ⟨.any, .once⟩ :: formParts fuel rest
  | fuel + 1, '[' :: '!' :: rest =>
      let (members, later) := bracketRanges rest
      ⟨.ranges true members, .once⟩ :: formParts fuel later
  | fuel + 1, '[' :: rest =>
      let (members, later) := bracketRanges rest
      ⟨.ranges false members, .once⟩ :: formParts fuel later
  | fuel + 1, c :: rest => ⟨.only c, .once⟩ :: formParts fuel rest

/-- Whether a whole text has a form. -/
def hasForm (form text : Text) : Bool :=
  Alternative.accepts ⟨true, true, formParts form.length form⟩ text

/-- The alternatives of a text that stands for itself. -/
def fixedPattern (text : Text) : List Alternative :=
  [⟨false, false, text.map fun c => ⟨.only c, .once⟩⟩]

end ContractTemplates.Host
