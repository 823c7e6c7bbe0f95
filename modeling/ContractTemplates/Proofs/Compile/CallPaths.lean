import ContractTemplates.Proofs.Compile.JobFiles
import ContractTemplates.Proofs.Path.Resolution

namespace ContractTemplates

/-!
# The paths in a call

The call of the compiler names the input and the output of a job and the directories
with fonts. The service follows these paths from its own directory, but the command reads
the words of the call in the working directory of the job.

`Job.call_meets_iff` says for each path when both mean the same location. Absolute paths
always do. A relative path has to reach the same directory on its way up from either
place, so a job with a relative working directory below the service's own misses its own
files, `Job.not_meets_of_relative`.
-/

namespace Compiler

/-- The paths that a call names: directories with fonts, the input and the output. -/
def callPaths (compiler : Compiler) (job : Text) : List Path :=
  compiler.fontPaths ++ [compiler.inputPath job, compiler.outputPath job]

/-- Whether the paths that a compiler is made with are such as reading texts gives. -/
structure IsNormal (compiler : Compiler) : Prop where
  workdir : compiler.workdir.IsNormal
  fontPaths : ∀ path ∈ compiler.fontPaths, path.IsNormal

variable
  {compiler : Compiler}
  {path : Path}
  {job : Text}

theorem text_mem_jobCall
    (named : path ∈ compiler.callPaths job) :
    path.text ∈ compiler.jobCall job := by
  unfold jobCall call fontWords
  rcases List.mem_append.mp named with font | jobFile
  · apply List.mem_append_left
    apply List.mem_append_right
    exact List.mem_flatMap.mpr ⟨path, font, by simp⟩
  · apply List.mem_append_right
    exact List.mem_map_of_mem jobFile

theorem IsNormal.jobPath
    (normal : compiler.IsNormal)
    (job ending : Text) :
    (compiler.jobPath job ending).IsNormal :=
  normal.workdir.joined (Path.isNormal_ofText _)

theorem IsNormal.of_mem_callPaths
    (normal : compiler.IsNormal)
    (named : path ∈ compiler.callPaths job) :
    path.IsNormal := by
  rcases List.mem_append.mp named with font | jobFile
  · exact normal.fontPaths path font
  · rcases List.mem_pair.mp jobFile with rfl | rfl
    · exact normal.jobPath job _
    · exact normal.jobPath job _

end Compiler

namespace Job

/--
Whether the command of a job, which reads the text of a path in the working directory,
and the service mean the same location.
-/
def Meets (job : Job) (path : Path) : Prop :=
  (Path.ofText path.text).resolve job.directory = path.resolve job.home

instance (job : Job) (path : Path) : Decidable (job.Meets path) :=
  inferInstanceAs (Decidable (_ = _))

variable {job : Job}

theorem meets_iff
    {path : Path}
    (normal : path.IsNormal) :
    job.Meets path ↔
      path.root ≠ .relative ∨
        job.directory.rdrop path.course.up = job.home.rdrop path.course.up := by
  unfold Meets
  rw [normal.ofText_text, Path.resolve_eq_resolve_iff]

/--
A file of the job is met exactly if the path of the working directory leads from there
to itself.
-/
theorem meets_jobPath_iff
    {ending : Text}
    (normal : job.compiler.IsNormal)
    (noSlash : '/' ∉ job.name)
    (endingLong : 2 < ending.length)
    (endingNoSlash : '/' ∉ ending) :
    job.Meets (job.compiler.jobPath job.name ending) ↔
      job.compiler.workdir.resolve job.directory = job.directory := by
  unfold Meets
  rw [(normal.jobPath job.name ending).ofText_text,
    Compiler.resolve_jobPath noSlash endingLong endingNoSlash,
    Compiler.resolve_jobPath noSlash endingLong endingNoSlash]
  exact List.append_left_inj _

/--
Each path of a call is a word of it, and means the same for the command as for the
service exactly if it has a root or reaches the same directory on its way up from both
places. For the two files of a job this is so exactly if the path of the working
directory, followed from there, leads to itself.
-/
theorem call_meets_iff
    (normal : job.compiler.IsNormal) :
    (∀ path ∈ job.compiler.callPaths job.name,
        path.text ∈ job.compiler.jobCall job.name ∧
          (job.Meets path ↔
            path.root ≠ .relative ∨
              job.directory.rdrop path.course.up =
                job.home.rdrop path.course.up)) ∧
      ('/' ∉ job.name →
        (job.Meets (job.compiler.inputPath job.name) ↔
            job.compiler.workdir.resolve job.directory = job.directory) ∧
          (job.Meets (job.compiler.outputPath job.name) ↔
            job.compiler.workdir.resolve job.directory = job.directory)) := by
  constructor
  · intro path named
    exact ⟨Compiler.text_mem_jobCall named,
      meets_iff (normal.of_mem_callPaths named)⟩
  · intro noSlash
    exact ⟨meets_jobPath_iff normal noSlash (by decide) (by decide),
      meets_jobPath_iff normal noSlash (by decide) (by decide)⟩

/-- A job with one directory below the service's own to work in, and one for fonts. -/
def ofRelativePaths : Job where
  compiler := {
    command := ["typst".toList]
    timeout := .integer 30
    workdir := Path.ofText "jobs".toList
    fontPaths := [Path.ofText "fonts".toList, Path.ofText "/fonts".toList] }
  name := "a".toList
  source := []
  home := ["srv".toList]

/-- The font directory with a root is met, the relative one and both files are missed. -/
theorem call_meets_iff_ofRelativePaths :
    ofRelativePaths.compiler.IsNormal ∧
      ofRelativePaths.Meets (Path.ofText "/fonts".toList) ∧
      ¬ ofRelativePaths.Meets (Path.ofText "fonts".toList) ∧
      ¬ ofRelativePaths.Meets
          (ofRelativePaths.compiler.inputPath ofRelativePaths.name) ∧
      ¬ ofRelativePaths.Meets
          (ofRelativePaths.compiler.outputPath ofRelativePaths.name) := by
  have normal : ofRelativePaths.compiler.IsNormal := {
    workdir := Path.isNormal_ofText _
    fontPaths := by
      intro path member
      rcases List.mem_pair.mp member with rfl | rfl
      · exact Path.isNormal_ofText _
      · exact Path.isNormal_ofText _ }
  obtain ⟨paths, files⟩ := call_meets_iff normal
  obtain ⟨input, output⟩ := files (by decide)
  refine ⟨normal, ?_, ?_, ?_, ?_⟩
  · rw [(paths (Path.ofText "/fonts".toList) (by decide)).2]
    decide
  · rw [(paths (Path.ofText "fonts".toList) (by decide)).2]
    decide
  · rw [input]
    decide
  · rw [output]
    decide

/-- A relative working directory that leads down is not met by its own jobs. -/
theorem not_meets_of_relative
    (normal : job.compiler.IsNormal)
    (noSlash : '/' ∉ job.name)
    (relative : job.compiler.workdir.root = .relative)
    (level : job.compiler.workdir.course.up = 0)
    (leads : job.compiler.workdir.course.down ≠ []) :
    ¬ job.Meets (job.compiler.inputPath job.name) ∧
      ¬ job.Meets (job.compiler.outputPath job.name) := by
  have further :
      job.compiler.workdir.resolve job.directory ≠ job.directory := by
    rw [Path.resolve_eq_target relative, Path.Course.target, level,
      List.rdrop_zero]
    exact fun same => leads (List.append_right_eq_self.mp same)
  constructor
  · rw [Compiler.inputPath,
      meets_jobPath_iff normal noSlash (by decide) (by decide)]
    exact further
  · rw [Compiler.outputPath,
      meets_jobPath_iff normal noSlash (by decide) (by decide)]
    exact further

/-- Not every path of a call means for the command what it means for the service. -/
theorem relative_paths_missed :
    ¬ ∀ path ∈ ofRelativePaths.compiler.callPaths ofRelativePaths.name,
        ofRelativePaths.Meets path := by
  decide

end Job

end ContractTemplates
