import ContractTemplates.Compile.Job
import ContractTemplates.Proofs.Path.Spelling

namespace ContractTemplates

/-!
# The files of a job

A job whose name has no slash has its two files in its working directory, each under the
name of the job with an ending. Jobs of different names in one directory therefore share
no file, and no job takes a file for the input that is the output of another.
-/

/-- A single name is the path that leads to it. -/
theorem Path.ofText_of_isName
    {name : Text}
    (counts : isName name = true)
    (noSlash : '/' ∉ name) :
    ofText name = ⟨.relative, [name]⟩ := by
  have normal : IsNormal ⟨.relative, [name]⟩ := by
    intro other member
    rw [List.mem_singleton.mp member]
    exact ⟨counts, noSlash⟩
  have spelled : text ⟨.relative, [name]⟩ = name := by
    simp [text, rootText, Text.joined]
  have read := normal.ofText_text
  rw [spelled] at read
  exact read

namespace Compiler

variable
  {compiler : Compiler}
  {job ending : Text}

/-- A file of a job is in the working directory, wherever this is. -/
theorem resolve_jobPath
    (noSlash : '/' ∉ job)
    (endingLong : 2 < ending.length)
    (endingNoSlash : '/' ∉ ending)
    (home : Location) :
    (compiler.jobPath job ending).resolve home =
      compiler.workdir.resolve home ++ [job ++ ending] := by
  have longer : 2 < (job ++ ending).length := by
    rw [List.length_append]
    omega
  have joinedNoSlash : '/' ∉ job ++ ending :=
    fun member => (List.mem_append.mp member).elim noSlash endingNoSlash
  have counts : Path.isName (job ++ ending) = true := by
    have nonempty : job ++ ending ≠ [] :=
      List.ne_nil_of_length_pos (by omega)
    have noPoint : job ++ ending ≠ ['.'] := by
      intro same
      rw [same] at longer
      exact absurd longer (by decide)
    simp [Path.isName, nonempty, noPoint]
  have down : job ++ ending ≠ ['.', '.'] := by
    intro same
    rw [same] at longer
    exact absurd longer (by decide)
  unfold jobPath
  rw [Path.ofText_of_isName counts joinedNoSlash, Path.resolve_joined rfl]
  exact if_neg down

end Compiler

namespace Job

/-- The ending of an input. -/
def inputEnding : Text :=
  ".typ".toList

/-- The ending of an output. -/
def outputEnding : Text :=
  ".pdf".toList

variable {job other : Job}

theorem input_eq
    (noSlash : '/' ∉ job.name) :
    job.input = job.directory ++ [job.name ++ inputEnding] :=
  Compiler.resolve_jobPath noSlash (by decide) (by decide) job.home

theorem output_eq
    (noSlash : '/' ∉ job.name) :
    job.output = job.directory ++ [job.name ++ outputEnding] :=
  Compiler.resolve_jobPath noSlash (by decide) (by decide) job.home

theorem input_ne_output
    (noSlash : '/' ∉ job.name)
    (otherNoSlash : '/' ∉ other.name) :
    job.input ≠ other.output := by
  rw [input_eq noSlash, output_eq otherNoSlash]
  intro same
  have names : job.name ++ inputEnding = other.name ++ outputEnding :=
    List.singleton_inj.mp (List.append_inj_right' same (by simp))
  have endings : inputEnding = outputEnding :=
    List.append_inj_right' names (by decide)
  exact absurd endings (by decide)

/-- Whether two jobs work in one directory under different names. -/
structure ApartFrom (job other : Job) : Prop where
  together : other.directory = job.directory
  noSlash : '/' ∉ job.name
  otherNoSlash : '/' ∉ other.name
  different : other.name ≠ job.name

theorem ApartFrom.input_ne_input
    (apart : job.ApartFrom other) :
    other.input ≠ job.input := by
  rw [input_eq apart.noSlash, input_eq apart.otherNoSlash, apart.together]
  intro same
  have names := List.singleton_inj.mp (List.append_cancel_left same)
  exact apart.different (List.append_cancel_right names)

theorem ApartFrom.output_ne_output
    (apart : job.ApartFrom other) :
    other.output ≠ job.output := by
  rw [output_eq apart.noSlash, output_eq apart.otherNoSlash, apart.together]
  intro same
  have names := List.singleton_inj.mp (List.append_cancel_left same)
  exact apart.different (List.append_cancel_right names)

end Job

end ContractTemplates
