import ContractTemplates.Path
import Mathlib.Data.List.DropRight

namespace ContractTemplates.Path

/-!
# Paths seen from two directories

The names of a relative path lead some directories up and then some names down, whatever
the directory that they are followed from. Two directories see the same location under
the path exactly if they reach the same directory on the way up:
`resolve_eq_resolve_iff`.
-/

/-- How many directories names lead up, and what they lead down from there. -/
structure Course where
  up : Nat
  down : List Text
  deriving DecidableEq, Repr

namespace Course

/-- The course with one name more; two points take back the last name, or lead up. -/
def onward (course : Course) (name : Text) : Course :=
  if name = ['.', '.'] then
    if course.down = [] then
      ⟨course.up + 1, []⟩
    else
      ⟨course.up, course.down.dropLast⟩
  else
    ⟨course.up, course.down ++ [name]⟩

/-- Where a course leads from a directory. -/
def target (course : Course) (directory : Location) : Location :=
  directory.rdrop course.up ++ course.down

theorem rdrop_succ
    (directory : Location)
    (up : Nat) :
    directory.rdrop (up + 1) = (directory.rdrop up).dropLast := by
  rw [List.rdrop_eq_reverse_drop_reverse, List.rdrop_eq_reverse_drop_reverse,
    List.dropLast_reverse, List.tail_drop]

theorem target_onward
    (course : Course)
    (name : Text)
    (directory : Location) :
    (course.onward name).target directory =
      follow (course.target directory) name := by
  unfold onward follow target
  by_cases points : name = ['.', '.']
  · by_cases level : course.down = []
    · simp only [points, level, if_true, List.append_nil, rdrop_succ]
    · simp only [points, level, if_true, if_false,
        List.dropLast_append_of_ne_nil level]
  · simp only [points, if_false, List.append_assoc]

/-- Names that are followed from a directory lead where their course does. -/
theorem foldl_follow
    (names : List Text)
    (course : Course)
    (directory : Location) :
    names.foldl follow (course.target directory) =
      (names.foldl onward course).target directory := by
  induction names generalizing course with
  | nil =>
      rfl
  | cons name rest inductionHypothesis =>
      rw [List.foldl_cons, List.foldl_cons, ← target_onward,
        inductionHypothesis]

end Course

/-- The course of the names of a path. -/
def course (path : Path) : Course :=
  path.names.foldl Course.onward ⟨0, []⟩

theorem resolve_eq_target
    {path : Path}
    (relative : path.root = .relative)
    (directory : Location) :
    path.resolve directory = path.course.target directory := by
  have begins : Course.target ⟨0, []⟩ directory = directory := by
    simp [Course.target]
  unfold resolve course
  rw [relative, ← Course.foldl_follow, begins]

/--
Two directories see the same location under a path exactly if the path has a root, or
leads up to the same directory from both.
-/
theorem resolve_eq_resolve_iff
    {path : Path}
    {first second : Location} :
    path.resolve first = path.resolve second ↔
      path.root ≠ .relative ∨
        first.rdrop path.course.up = second.rdrop path.course.up := by
  by_cases relative : path.root = .relative
  · rw [resolve_eq_target relative, resolve_eq_target relative]
    simp [Course.target, relative]
  · simp [relative, resolve_eq_of_root_ne relative first second]

end ContractTemplates.Path
