import ContractTemplates.Path
import ContractTemplates.Proofs.Text.Split

namespace ContractTemplates.Path

/-!
# The text of a path

A path that was read from a text, or put together from such paths, has only names that
count, without slashes in them. The text of such a path is read as the path again.
-/

/-- Whether the names of a path are such as reading a text gives. -/
def IsNormal (path : Path) : Prop :=
  ∀ name ∈ path.names, isName name = true ∧ '/' ∉ name

theorem isNormal_ofText
    (text : Text) :
    (ofText text).IsNormal := by
  intro name member
  obtain ⟨piece, counts⟩ := List.mem_filter.mp member
  exact ⟨counts, Text.not_mem_of_mem_split piece⟩

theorem IsNormal.joined
    {base path : Path}
    (baseNormal : base.IsNormal)
    (normal : path.IsNormal) :
    (base.joined path).IsNormal := by
  unfold Path.joined
  split
  · intro name member
    rcases List.mem_append.mp member with before | after
    · exact baseNormal name before
    · exact normal name after
  · exact normal

/-- What is below the root in the text of a path does not begin with a slash. -/
theorem IsNormal.head?_joined
    {path : Path}
    (normal : path.IsNormal) :
    (Text.joined ['/'] path.names).head? ≠ some '/' := by
  cases shape : path.names with
  | nil =>
      exact nofun
  | cons name names =>
      obtain ⟨counts, noSlash⟩ := normal name (shape ▸ List.mem_cons_self)
      cases name with
      | nil =>
          cases counts
      | cons c rest =>
          have different : c ≠ '/' := by
            rintro rfl
            exact noSlash List.mem_cons_self
          cases names with
          | nil =>
              simpa [Text.joined] using different
          | cons next others =>
              simpa [Text.joined, List.intercalate_cons_cons] using different

theorem rootOf_rootText
    {rest : Text}
    (begins : rest.head? ≠ some '/')
    (root : PathRoot) :
    rootOf (rootText root ++ rest) = root := by
  cases rest with
  | nil =>
      cases root <;>
        rfl
  | cons c others =>
      have different : c ≠ '/' := by
        simpa using begins
      cases root with
      | relative =>
          simp [rootText, rootOf, different]
      | absolute =>
          simp [rootText, rootOf, different]
      | doubled =>
          simp [rootText, rootOf, different]

/-- The names below the root are read from the text of a path. -/
theorem IsNormal.filter_split
    {path : Path}
    (normal : path.IsNormal) :
    (Text.split '/' (Text.joined ['/'] path.names)).filter isName =
      path.names := by
  by_cases empty : path.names = []
  · rw [empty]
    rfl
  · rw [Text.split_joined empty fun name member => (normal name member).2,
      List.filter_eq_self]
    exact fun name member => (normal name member).1

theorem filter_split_rootText
    (root : PathRoot)
    (rest : Text) :
    (Text.split '/' (rootText root ++ rest)).filter isName =
      (Text.split '/' rest).filter isName := by
  have unnamed : isName [] = false := by
    decide
  cases root with
  | relative =>
      rfl
  | absolute =>
      simp [rootText, Text.split_cons_self, unnamed]
  | doubled =>
      simp [rootText, Text.split_cons_self, unnamed]

/-- The text of a path is read as the path. -/
theorem IsNormal.ofText_text
    {path : Path}
    (normal : path.IsNormal) :
    ofText path.text = path := by
  have below :
      ofText (rootText path.root ++ Text.joined ['/'] path.names) = path := by
    unfold ofText
    rw [rootOf_rootText normal.head?_joined, filter_split_rootText,
      normal.filter_split]
  unfold text
  split
  next root names =>
    obtain ⟨_, _⟩ := path
    cases root
    cases names
    decide
  next =>
    exact below

end ContractTemplates.Path
