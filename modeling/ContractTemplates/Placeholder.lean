import ContractTemplates.Variable.Value

namespace ContractTemplates

/-!
# Placeholders

A placeholder is `{{name}}` with a name of ASCII letters, digits and
underscores. A source is cut into segments, which are its placeholders and the
single code points between them, by looking at the source alone. Filling replaces
each placeholder that has a value by the text of that value and leaves all else
as it is; inserted text is never looked at again.
-/

/-- A placeholder, or one code point outside the placeholders. -/
inductive Segment where
  | character (c : CodePoint)
  | placeholder (name : RawText)
  deriving DecidableEq, Repr

namespace Segment

/-- How a segment is written in a source. -/
def text : Segment → RawText
  | character c => [c]
  | placeholder name =>
      .char '{' :: .char '{' :: name ++ [.char '}', .char '}']

/-- A segment with its value put in; a name without a value stays as written. -/
def fill (values : RawText → Option Value) : Segment → RawText
  | character c => [c]
  | placeholder name =>
      match values name with
      | some value => value.render
      | none => text (placeholder name)

end Segment

/-- The name of the placeholder that a text begins with. -/
def leadingPlaceholder? : RawText → Option RawText
  | .char '{' :: .char '{' :: rest =>
      match rest.takeWhile CodePoint.isWordCharacter,
          rest.dropWhile CodePoint.isWordCharacter with
      | c :: name, .char '}' :: .char '}' :: _ => some (c :: name)
      | _, _ => none
  | _ => none

/--
The segments of a source, after `skip` code points that an earlier segment has
already taken.
-/
def segmentsAfter : Nat → RawText → List Segment
  | _, [] => []
  | skip + 1, _ :: rest => segmentsAfter skip rest
  | 0, c :: rest =>
      match leadingPlaceholder? (c :: rest) with
      | some name =>
          .placeholder name :: segmentsAfter (name.length + 3) rest
      | none => .character c :: segmentsAfter 0 rest

/-- The segments of a source in order. -/
def segments (source : RawText) : List Segment :=
  segmentsAfter 0 source

/-- A source with every placeholder that has a value replaced by the text of the value. -/
def substitute (source : RawText) (values : RawText → Option Value) :
    RawText :=
  (segments source).flatMap (Segment.fill values)

/-- A text that begins with a placeholder is the placeholder and what follows it. -/
theorem eq_append_of_leadingPlaceholder?
    {source name : RawText}
    (found : leadingPlaceholder? source = some name) :
    source = (Segment.placeholder name).text ++ source.drop (name.length + 4) := by
  unfold leadingPlaceholder? at found
  split at found
  · rename_i rest
    split at found
    · rename_i c tail later nameShape afterShape
      cases found
      have whole := List.takeWhile_append_dropWhile
        (p := CodePoint.isWordCharacter) (l := rest)
      rw [nameShape, afterShape] at whole
      rw [← whole]
      simp [Segment.text]
    · cases found
  · cases found

/-- Nothing of a source is lost: its segments, written one after the other, are the source. -/
theorem flatMap_text_segmentsAfter
    (skip : Nat)
    (source : RawText) :
    (segmentsAfter skip source).flatMap Segment.text = source.drop skip := by
  induction source generalizing skip with
  | nil =>
      simp [segmentsAfter]
  | cons c rest inductionHypothesis =>
      cases skip with
      | succ skip =>
          simpa [segmentsAfter] using inductionHypothesis skip
      | zero =>
          unfold segmentsAfter
          split
          · rename_i name found
            have shape := eq_append_of_leadingPlaceholder? found
            simp only [List.flatMap_cons, inductionHypothesis]
            rw [List.drop_zero]
            conv => rhs; rw [shape]
            rfl
          · simp [Segment.text, inductionHypothesis]

end ContractTemplates
