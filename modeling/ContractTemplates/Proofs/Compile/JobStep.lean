import ContractTemplates.Proofs.Compile.JobFiles
import ContractTemplates.Proofs.Files.Way

namespace ContractTemplates

/-!
# The steps of a job

`Job.turn_step` says what a step of a job can do if the command keeps to the two files of
the job: it makes the working directory, or it changes nothing but those two files. From
this follow what a step leaves as it is, `Job.Turn.file_iff`, and what a job leaves of its
own files, `Job.Turn.tidy`.
-/

/-- Whether a job has its working directory and has not come to an outcome yet. -/
def JobStage.IsAtWork : JobStage → Prop
  | .writing | .launching | .running _ | .reading => True
  | _ => False

/-- Whether a file is at a location. -/
def Files.HasFile (files : Files) (location : Location) : Prop :=
  ∃ content, files.find? location = some (.file content)

namespace Job

/-- Whether two file trees have the same at the two files of a job. -/
structure SameFor (job : Job) (first second : Files) : Prop where
  input : first.find? job.input = second.find? job.input
  output : first.find? job.output = second.find? job.output

/-- Whether two file trees have the same but for the two files of a job. -/
def SameElsewhere (job : Job) (first second : Files) : Prop :=
  ∀ place, place ≠ job.input → place ≠ job.output →
    second.find? place = first.find? place

/--
Whether a change of the files touches only the two files of a job, and makes of them what
depends on nothing but these two and the way to them.
-/
structure Confines (job : Job) (change : Files → Files) : Prop where
  elsewhere : ∀ files, job.SameElsewhere files (change files)
  alike :
    ∀ first second, Files.AgreeOnWay job.directory first second →
      job.SameFor first second → job.SameFor (change first) (change second)

end Job

/-- Whether an event is the refusal to remove a file. -/
def JobEvent.isRefusal : JobEvent → Bool
  | .cleared true => true
  | _ => false

/-- Whether the command keeps to the two files of a job in what an event says it does. -/
def JobEvent.KeepsTo (event : JobEvent) (job : Job) : Prop :=
  ∀ change, event = .acts change → job.Confines change

namespace Job

variable
  {job : Job}
  {files first second : Files}
  {stage : JobStage}
  {event : JobEvent}
  {place : Location}
  {content : Bytes}

/-- What a step of a job can do, by the stage and the event. -/
inductive Turn (job : Job) (files : Files) :
    JobStage → JobEvent → Files × JobStage → Prop where
  | stays (stage : JobStage) (event : JobEvent) :
      job.Turn files stage event (files, stage)
  | refused (event : JobEvent) (outcome : JobOutcome) :
      job.Turn files .preparing event (files, .clearingInput outcome)
  | made
      (event : JobEvent)
      {changed : Files}
      (directory : files.makeDirectories job.directory = .ok changed) :
      job.Turn files .preparing event (changed, .writing)
  | worked
      {stage next : JobStage}
      (event : JobEvent)
      {changed : Files}
      (atWork : stage.IsAtWork)
      (elsewhere : job.SameElsewhere files changed)
      (onward : next.IsAtWork ∨ ∃ outcome, next = .clearingInput outcome) :
      job.Turn files stage event (changed, next)
  | clearedInput (outcome : JobOutcome) (refused : Bool) :
      job.Turn files (.clearingInput outcome) (.cleared refused)
        (clear job.input refused files, .clearingOutput outcome)
  | clearedOutput (outcome : JobOutcome) (refused : Bool) :
      job.Turn files (.clearingOutput outcome) (.cleared refused)
        (clear job.output refused files, .over outcome)

theorem SameFor.symm
    (same : job.SameFor first second) :
    job.SameFor second first where
  input := same.input.symm
  output := same.output.symm

theorem SameFor.trans
    {third : Files}
    (same : job.SameFor first second)
    (further : job.SameFor second third) :
    job.SameFor first third where
  input := same.input.trans further.input
  output := same.output.trans further.output

theorem SameElsewhere.refl
    (job : Job)
    (files : Files) :
    job.SameElsewhere files files :=
  fun _ _ _ => rfl

/-- Writing one of the two files changes nothing else. -/
theorem sameElsewhere_of_write
    {location : Location}
    {changed : Files}
    (own : location = job.input ∨ location = job.output)
    (wrote : files.write location content = .ok changed) :
    job.SameElsewhere files changed := by
  intro place notInput notOutput
  have different : place ≠ location := by
    rintro rfl
    exact own.elim notInput notOutput
  rw [Files.find?_write wrote, if_neg different]

theorem sameElsewhere_write_getD
    {location : Location}
    (own : location = job.input ∨ location = job.output)
    (content : Bytes)
    (files : Files) :
    job.SameElsewhere files ((files.write location content).toOption.getD files) := by
  cases verdict : files.write location content with
  | error fault =>
      exact .refl _ _
  | ok changed =>
      exact sameElsewhere_of_write own verdict

/-- After its supervision a job still watches, reads the document or removes its files. -/
theorem afterStatus_onward
    (status : Int)
    (output errors : Text) :
    (afterStatus status output errors).IsAtWork ∨
      ∃ outcome, afterStatus status output errors = .clearingInput outcome := by
  unfold afterStatus
  split
  · exact Or.inl trivial
  · exact Or.inr ⟨_, rfl⟩

theorem afterChild_onward
    (job : Job)
    (supervision : Supervision) :
    (job.afterChild supervision).IsAtWork ∨
      ∃ outcome, job.afterChild supervision = .clearingInput outcome := by
  unfold afterChild
  split
  · exact Or.inl trivial
  · exact afterStatus_onward ..
  · exact Or.inr ⟨_, rfl⟩
  · exact Or.inr ⟨_, rfl⟩

/-- Every step is one of the turns. -/
theorem turn_step
    (keeps : event.KeepsTo job)
    (files : Files)
    (stage : JobStage) :
    job.Turn files stage event (job.step (files, stage) event) := by
  cases stage with
  | preparing =>
      cases event with
      | directory refusal =>
          cases refusal with
          | some fault =>
              exact .refused ..
          | none =>
              cases verdict : files.makeDirectories job.directory with
              | error fault =>
                  simp only [step, verdict, attempt]
                  exact .refused ..
              | ok changed =>
                  simp only [step, verdict, attempt]
                  exact .made _ verdict
      | _ =>
          exact .stays ..
  | writing =>
      cases event with
      | input =>
          cases verdict : files.write job.input job.source.utf8 with
          | error fault =>
              simp only [step, verdict, attempt]
              exact .worked _ trivial (.refl _ _) (Or.inr ⟨_, rfl⟩)
          | ok changed =>
              simp only [step, verdict, attempt]
              exact .worked _ trivial
                (sameElsewhere_of_write (Or.inl rfl) verdict) (Or.inl trivial)
      | inputRefused fault left =>
          refine .worked _ trivial ?_ (Or.inr ⟨_, rfl⟩)
          cases left with
          | none =>
              exact .refl _ _
          | some content =>
              exact sameElsewhere_write_getD (Or.inl rfl) content files
      | _ =>
          exact .stays ..
  | launching =>
      cases event with
      | launch launch =>
          cases launch with
          | started =>
              exact .worked _ trivial (.refl _ _) (Or.inl trivial)
          | missing =>
              exact .worked _ trivial (.refl _ _) (afterStatus_onward ..)
          | refused fault path =>
              exact .worked _ trivial (.refl _ _) (Or.inr ⟨_, rfl⟩)
      | launchCancelled =>
          exact .worked _ trivial (.refl _ _) (Or.inr ⟨_, rfl⟩)
      | _ =>
          exact .stays ..
  | running supervision =>
      cases event with
      | acts change =>
          by_cases alive : supervision.child = .running
          · simp only [step, alive, if_true]
            exact .worked _ trivial ((keeps change rfl).elsewhere files)
              (Or.inl trivial)
          · simp only [step, alive, if_false]
            exact .stays ..
      | child event =>
          exact .worked _ trivial (.refl _ _) (afterChild_onward ..)
      | _ =>
          exact .stays ..
  | reading =>
      cases event with
      | output refused =>
          unfold step
          dsimp only
          split <;>
            exact .worked _ trivial (.refl _ _) (Or.inr ⟨_, rfl⟩)
      | _ =>
          exact .stays ..
  | clearingInput outcome =>
      cases event with
      | cleared refused =>
          exact .clearedInput ..
      | _ =>
          exact .stays ..
  | clearingOutput outcome =>
      cases event with
      | cleared refused =>
          exact .clearedOutput ..
      | _ =>
          exact .stays ..
  | «over» outcome =>
      exact .stays ..

/-! ### What a step leaves as it is -/

theorem not_concat_prefix
    (location : Location)
    (name : Text) :
    ¬ location ++ [name] <+: location := by
  intro before
  have longer := before.length_le
  rw [List.length_append] at longer
  exact Nat.not_succ_le_self _ longer

theorem input_off
    (noSlash : '/' ∉ job.name) :
    ¬ job.input <+: job.directory := by
  rw [input_eq noSlash]
  exact not_concat_prefix _ _

theorem output_off
    (noSlash : '/' ∉ job.name) :
    ¬ job.output <+: job.directory := by
  rw [output_eq noSlash]
  exact not_concat_prefix _ _

/-- What is there after a file of a job was removed, or was refused to be. -/
theorem find?_clear
    (location : Location)
    (refused : Bool)
    (files : Files)
    (place : Location) :
    (clear location refused files).find? place =
      if place = location ∧ refused = false ∧
          files.find? location ≠ some .directory then
        none
      else
        files.find? place := by
  unfold clear
  cases refused with
  | true =>
      simp
  | false =>
      cases verdict : files.remove location with
      | ok removed =>
          have notDirectory : files.find? location ≠ some .directory := by
            intro there
            unfold Files.remove at verdict
            rw [there] at verdict
            cases verdict
          simp [Files.find?_remove verdict, notDirectory]
      | error fault =>
          have directory : files.find? location = some .directory := by
            unfold Files.remove at verdict
            split at verdict
            · assumption
            · cases verdict
            · cases verdict
          simp [directory]

theorem Turn.makes_or_sameElsewhere
    {after : Files × JobStage}
    (turn : job.Turn files stage event after) :
    files.makeDirectories job.directory = .ok after.1 ∨
      job.SameElsewhere files after.1 := by
  cases turn with
  | stays =>
      exact Or.inr (.refl _ _)
  | refused outcome =>
      exact Or.inr (.refl _ _)
  | made event directory =>
      exact Or.inl directory
  | worked event atWork elsewhere onward =>
      exact Or.inr elsewhere
  | clearedInput outcome refused =>
      refine Or.inr fun place notInput _ => ?_
      rw [find?_clear, if_neg fun same => notInput same.1]
  | clearedOutput outcome refused =>
      refine Or.inr fun place _ notOutput => ?_
      rw [find?_clear, if_neg fun same => notOutput same.1]

/-- Off the way to the working directory a step changes the two files of the job alone. -/
theorem Turn.find?_off
    {after : Files × JobStage}
    (turn : job.Turn files stage event after)
    (off : ¬ place <+: job.directory)
    (notInput : place ≠ job.input)
    (notOutput : place ≠ job.output) :
    after.1.find? place = files.find? place := by
  rcases turn.makes_or_sameElsewhere with made | elsewhere
  · exact Files.find?_makeDirectories_off made off
  · exact elsewhere place notInput notOutput

/-- A step neither adds, changes nor removes a file that is not one of the job. -/
theorem Turn.file_iff
    {after : Files × JobStage}
    (turn : job.Turn files stage event after)
    (notInput : place ≠ job.input)
    (notOutput : place ≠ job.output) :
    after.1.find? place = some (.file content) ↔
      files.find? place = some (.file content) := by
  rcases turn.makes_or_sameElsewhere with made | elsewhere
  · exact Files.file_makeDirectories_iff made
  · rw [elsewhere place notInput notOutput]

/-! ### What is left of the files of a job -/

/--
Whether the files of a job are there only while they may be: not before the job has begun,
the input not after its removal, and neither when the job is over.
-/
def Tidy (job : Job) (files : Files) : JobStage → Prop
  | .preparing => ¬ files.HasFile job.input ∧ ¬ files.HasFile job.output
  | .clearingOutput _ => ¬ files.HasFile job.input
  | .over _ => ¬ files.HasFile job.input ∧ ¬ files.HasFile job.output
  | _ => True

theorem SameFor.tidy
    (same : job.SameFor first second)
    (tidy : job.Tidy first stage) :
    job.Tidy second stage := by
  unfold Tidy Files.HasFile at tidy ⊢
  rw [← same.input, ← same.output]
  exact tidy

theorem tidy_of_onward
    (onward : stage.IsAtWork ∨ ∃ outcome, stage = .clearingInput outcome) :
    job.Tidy files stage := by
  rcases onward with atWork | ⟨outcome, rfl⟩
  · cases stage with
    | writing | launching | running supervision | reading =>
        exact trivial
    | _ =>
        exact atWork.elim
  · exact trivial

theorem not_hasFile_clear
    (location : Location)
    (files : Files) :
    ¬ (clear location false files).HasFile location := by
  rintro ⟨content, there⟩
  rw [find?_clear] at there
  by_cases directory : files.find? location = some .directory
  · simp [directory] at there
  · simp [directory] at there

/-- The location that a job is about to clear. -/
def clearing? (job : Job) : JobStage → Option Location
  | .clearingInput _ => some job.input
  | .clearingOutput _ => some job.output
  | _ => none

/-- Whether a removal, if it is refused, is one of no file. -/
def Unlinks (job : Job) (state : Files × JobStage) (event : JobEvent) : Prop :=
  event.isRefusal → ∀ location ∈ job.clearing? state.2, ¬ state.1.HasFile location

theorem unlinks_of_ne_refusal
    (removes : event ≠ .cleared true)
    (state : Files × JobStage) :
    job.Unlinks state event := by
  intro refusal
  unfold JobEvent.isRefusal at refusal
  split at refusal
  · exact absurd rfl removes
  · cases refusal

/-- A job leaves no file of its own behind that it is not refused to remove. -/
theorem Turn.tidy
    {after : Files × JobStage}
    (turn : job.Turn files stage event after)
    (noSlash : '/' ∉ job.name)
    (unlinks : job.Unlinks (files, stage) event)
    (tidy : job.Tidy files stage) :
    job.Tidy after.1 after.2 := by
  cases turn with
  | stays =>
      exact tidy
  | refused event outcome =>
      exact trivial
  | made event directory =>
      exact trivial
  | worked event atWork elsewhere onward =>
      exact tidy_of_onward onward
  | clearedInput outcome refused =>
      cases refused with
      | true =>
          exact unlinks rfl _ rfl
      | false =>
          exact not_hasFile_clear _ _
  | clearedOutput outcome refused =>
      cases refused with
      | true =>
          exact ⟨tidy, unlinks rfl _ rfl⟩
      | false =>
          refine ⟨?_, not_hasFile_clear _ _⟩
          rintro ⟨content, there⟩
          rw [find?_clear, if_neg fun same => input_ne_output noSlash noSlash same.1] at there
          exact tidy ⟨content, there⟩

end Job

end ContractTemplates
