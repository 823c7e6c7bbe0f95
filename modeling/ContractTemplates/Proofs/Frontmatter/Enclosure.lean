import ContractTemplates.Proofs.Frontmatter.Layout

namespace ContractTemplates

/-!
# Metadata put into a block

Metadata that stand between an opening line and a closing line are found again as they are, and
with them the body, whatever it holds: `Frontmatter.read_enclose`. Blanks at their ends would be
lost to the marks, and a closer inside would end them early, so they must have neither.
-/

/-- What is called `dict` is a mapping. -/
theorem Datum.exists_entries_of_kindName
    {datum : Datum}
    (kind : datum.kindName = "dict".toList) :
    ∃ entries, datum = .map entries := by
  cases datum with
  | map entries =>
      exact ⟨entries, rfl⟩
  | number value =>
      cases value <;>
        cases kind
  | _ =>
      cases kind

namespace Block

variable
  {metadata body before later rest : Text}

/-- A closer behind metadata that have none is not reached from inside them. -/
theorem length_le_of_closes
    (ends : ∀ c ∈ metadata.getLast?, Text.isBlank c = false)
    (unclosed : ∀ before later, ¬ Closes metadata before later)
    (closes : Closes (metadata ++ '\n' :: (closing ++ rest)) before later) :
    metadata.length ≤ before.length := by
  obtain ⟨margin, blank, shape⟩ := closes
  rcases List.append_eq_append_iff.mp shape with ⟨more, rfl, _⟩ | ⟨inside, metadataShape, closer⟩
  · simp
  · cases inside with
    | nil =>
        simp [metadataShape]
    | cons c inside =>
        obtain ⟨rfl, marks⟩ := List.cons.inj closer
        rcases List.append_eq_append_iff.mp marks with ⟨more, rfl, mark⟩ | ⟨more, rfl, _⟩
        · obtain ⟨later, rfl⟩ := Text.prefix_of_append_eq (by decide) mark
          exact absurd ⟨margin, blank, metadataShape⟩ (unclosed before later)
        · have lineBlank : Text.AllBlank ('\n' :: inside) :=
            Text.allBlank_cons_iff.mpr ⟨by decide, (Text.allBlank_append_iff.mp blank).1⟩
          have none := lineBlank.eq_nil_of_isSuffix ends ⟨before, metadataShape.symm⟩
          cases none

/-- A content with metadata in a block and a body behind it. -/
def enclose (metadata body : Text) : Text :=
  opening ++ '\n' :: (metadata ++ '\n' :: (closing ++ '\n' :: body))

/-- Enclosed metadata and the body behind them make up the preferred layout. -/
theorem isPreferred_enclose
    (nonempty : metadata ≠ [])
    (begins : ∀ c ∈ metadata.head?, Text.isBlank c = false)
    (ends : ∀ c ∈ metadata.getLast?, Text.isBlank c = false)
    (unclosed : ∀ before later, ¬ Closes metadata before later)
    (body : Text) :
    Layout.IsPreferred ⟨[], [], metadata, [], '\n' :: body⟩ (enclose metadata body) := by
  have fits : Layout.Fits ⟨[], [], metadata, [], '\n' :: body⟩ (enclose metadata body) := by
    refine ⟨Text.allBlank_nil, Text.allBlank_nil, Text.allBlank_nil, ?_⟩
    simp [enclose, Layout.start, Layout.close]
  refine ⟨fits, fun other otherFits => ?_, fun other otherFits sameGap => ?_⟩
  · obtain ⟨gapBlank, shape, _⟩ := (otherFits.opens fits.after?_opening).1
    obtain ⟨first, others, rfl⟩ := List.exists_cons_of_ne_nil nonempty
    have visible := begins first rfl
    cases gap : other.gap with
    | nil =>
        exact Nat.le_refl _
    | cons c more =>
        rw [gap] at shape gapBlank
        obtain ⟨_, following⟩ := List.cons.inj shape
        -- A gap beyond the opening line would take the first character of the metadata.
        have taken : Text.isBlank first = true := by
          cases more with
          | nil =>
              obtain ⟨rfl, _⟩ := List.cons.inj following
              decide
          | cons d more =>
              obtain ⟨rfl, _⟩ := List.cons.inj following
              exact gapBlank first (List.mem_cons_of_mem _ List.mem_cons_self)
        rw [taken] at visible
        cases visible
  · obtain ⟨⟨_, shape, _⟩, closes⟩ := otherFits.opens fits.after?_opening
    rw [sameGap] at shape
    rw [← (List.cons.inj shape).2] at closes
    exact length_le_of_closes ends unclosed closes

end Block

namespace Frontmatter

open Block

/--
Metadata without blanks at their ends and without a closer inside are found in a block as they are,
and all that follows the closing line is the body. They are what is loaded: a mapping becomes the
metadata of the file, and where they cannot be loaded, neither can the file.
-/
theorem read_enclose
    {metadata : Text}
    (nonempty : metadata ≠ [])
    (begins : ∀ c ∈ metadata.head?, Text.isBlank c = false)
    (ends : ∀ c ∈ metadata.getLast?, Text.isBlank c = false)
    (unclosed : ∀ before later, ¬ Closes metadata before later)
    (body : Text) :
    find? (enclose metadata body) = some ⟨metadata, body⟩ ∧
      (∀ entries,
        Yaml.load metadata = .ok (.map entries) →
        read (enclose metadata body) = .ok ⟨entries, body⟩) ∧
      ∀ error,
        Yaml.load metadata = .error error →
        read (enclose metadata body) = .error (.yaml error) := by
  have found : find? (enclose metadata body) = some ⟨metadata, body⟩ :=
    (isPreferred_enclose nonempty begins ends unclosed body).find?_eq
  refine ⟨found, fun entries loaded => ?_, fun error failed => ?_⟩
  · rw [read_of_find?_eq_some found, loaded]
    rfl
  · rw [read_of_find?_eq_some found, failed]
    rfl

/-- Marks inside a line of the metadata and blocks in the body are left where they are. -/
theorem read_enclose_ofMarks :
    ∃ entries,
      find? (enclose "id: a ---*/ b\nfee: 5".toList "\n\t---*/\n/*---\nx: 1\n---*/".toList) =
          some ⟨"id: a ---*/ b\nfee: 5".toList, "\n\t---*/\n/*---\nx: 1\n---*/".toList⟩ ∧
        Yaml.load "id: a ---*/ b\nfee: 5".toList = .ok (.map entries) ∧
        read (enclose "id: a ---*/ b\nfee: 5".toList "\n\t---*/\n/*---\nx: 1\n---*/".toList) =
          .ok ⟨entries, "\n\t---*/\n/*---\nx: 1\n---*/".toList⟩ := by
  have noCloser : upToCloser? "id: a ---*/ b\nfee: 5".toList = none := by
    decide
  have unclosed (before later : Text) :
      ¬ Closes "id: a ---*/ b\nfee: 5".toList before later := by
    intro closes
    obtain ⟨_, found⟩ := exists_upToCloser? closes
    cases found.symm.trans noCloser
  obtain ⟨found, mapped, _⟩ :=
    read_enclose (by decide) (by rintro c ⟨⟩; decide) (by rintro c ⟨⟩; decide) unclosed
      "\n\t---*/\n/*---\nx: 1\n---*/".toList
  have kind :
      (Yaml.load "id: a ---*/ b\nfee: 5".toList).map Datum.kindName = .ok "dict".toList := by
    decide +kernel
  cases loaded : Yaml.load "id: a ---*/ b\nfee: 5".toList with
  | error =>
      rw [loaded] at kind
      cases kind
  | ok datum =>
      rw [loaded] at kind
      obtain ⟨entries, rfl⟩ := Datum.exists_entries_of_kindName (Except.ok.inj kind)
      exact ⟨entries, found, rfl, mapped entries loaded⟩

end Frontmatter

end ContractTemplates
