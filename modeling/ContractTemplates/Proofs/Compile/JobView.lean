import ContractTemplates.Proofs.Compile.JobStep

namespace ContractTemplates.Job

/-!
# What the steps of a job depend on

A job sees its stage, what is at its two files and whether its working directory can be
made. The way to that directory is as it was at the start until the directory is made, and
from then on as it was then, whichever job of the directory made it: `Job.Standing`. So
`Job.step_alike` can compare two runs of a job, in one of which other jobs work in the same
directory.
-/

variable
  {job other : Job}
  {initial files first second : Files}
  {stage : JobStage}
  {event : JobEvent}

/-- How the files stand to those at the start when a job is in a stage. -/
structure Standing (job : Job) (initial files : Files) (stage : JobStage) :
    Prop where
  way : Files.WayFrom job.directory initial files
  made : stage.IsAtWork → Files.MadeFrom job.directory initial files

theorem SameElsewhere.agreeOnWay
    (elsewhere : job.SameElsewhere first second)
    (noSlash : '/' ∉ job.name) :
    Files.AgreeOnWay job.directory first second := by
  intro place before
  refine (elsewhere place ?_ ?_).symm
  · rintro rfl
    exact input_off noSlash before
  · rintro rfl
    exact output_off noSlash before

theorem Turn.wayFrom
    {after : Files × JobStage}
    (turn : job.Turn files stage event after)
    (noSlash : '/' ∉ job.name)
    (way : Files.WayFrom job.directory initial files) :
    Files.WayFrom job.directory initial after.1 := by
  rcases turn.makes_or_sameElsewhere with made | elsewhere
  · exact Or.inr (way.madeFrom made)
  · exact way.trans (elsewhere.agreeOnWay noSlash)

theorem Turn.madeFrom
    {after : Files × JobStage}
    (turn : job.Turn files stage event after)
    (noSlash : '/' ∉ job.name)
    (standing : Files.MadeFrom job.directory initial files) :
    Files.MadeFrom job.directory initial after.1 := by
  rcases turn.makes_or_sameElsewhere with made | elsewhere
  · exact Files.WayFrom.madeFrom (Or.inr standing) made
  · exact standing.trans (elsewhere.agreeOnWay noSlash)

/-- A job at work has had its directory made, and each of its steps keeps this so. -/
theorem Turn.standing
    {after : Files × JobStage}
    (turn : job.Turn files stage event after)
    (noSlash : '/' ∉ job.name)
    (standing : job.Standing initial files stage) :
    job.Standing initial after.1 after.2 where
  way := turn.wayFrom noSlash standing.way
  made := by
    intro atWork
    cases turn with
    | stays =>
        exact standing.made atWork
    | refused event outcome =>
        exact atWork.elim
    | made event directory =>
        exact standing.way.madeFrom directory
    | worked event wasAtWork elsewhere onward =>
        exact (standing.made wasAtWork).trans (elsewhere.agreeOnWay noSlash)
    | clearedInput outcome refused =>
        exact atWork.elim
    | clearedOutput outcome refused =>
        exact atWork.elim

/-- A step of another job in the same directory keeps it so as well. -/
theorem Turn.standing_other
    {after : Files × JobStage}
    {otherStage : JobStage}
    (turn : job.Turn files stage event after)
    (apart : job.ApartFrom other)
    (standing : other.Standing initial files otherStage) :
    other.Standing initial after.1 otherStage where
  way := by
    have way := standing.way
    rw [apart.together] at way ⊢
    exact turn.wayFrom apart.noSlash way
  made := by
    intro atWork
    have made := standing.made atWork
    rw [apart.together] at made ⊢
    exact turn.madeFrom apart.noSlash made

/-- A step of another job in the same directory does not touch the two files. -/
theorem Turn.sameFor_other
    {after : Files × JobStage}
    (turn : job.Turn files stage event after)
    (apart : job.ApartFrom other) :
    other.SameFor files after.1 where
  input := by
    have off := input_off apart.otherNoSlash
    rw [apart.together] at off
    exact (turn.find?_off off apart.input_ne_input
      (input_ne_output apart.otherNoSlash apart.noSlash)).symm
  output := by
    have off := output_off apart.otherNoSlash
    rw [apart.together] at off
    exact (turn.find?_off off
      (input_ne_output apart.noSlash apart.otherNoSlash).symm
      apart.output_ne_output).symm

/-- Whether a job cannot tell two states apart. -/
structure Alike (job : Job) (state other : Files × JobStage) : Prop where
  stage : state.2 = other.2
  files : job.SameFor state.1 other.1

/-- Making the working directory does not touch the two files. -/
theorem sameFor_of_makeDirectories
    {changed : Files}
    (noSlash : '/' ∉ job.name)
    (made : files.makeDirectories job.directory = .ok changed) :
    job.SameFor files changed where
  input := (Files.find?_makeDirectories_off made (input_off noSlash)).symm
  output := (Files.find?_makeDirectories_off made (output_off noSlash)).symm

/-- The working directory is made or refused alike. -/
theorem attempt_directory_alike
    (noSlash : '/' ∉ job.name)
    (path : Path)
    (next : JobStage)
    (way : Files.WayFrom job.directory initial first)
    (otherWay : Files.WayFrom job.directory initial second)
    (same : job.SameFor first second) :
    job.Alike
      (attempt path next first (first.makeDirectories job.directory))
      (attempt path next second (second.makeDirectories job.directory)) := by
  have refusedAlike (fault : FileFault) :
      first.makeDirectories job.directory = .error fault ↔
        second.makeDirectories job.directory = .error fault :=
    way.makeDirectories_error_iff.trans otherWay.makeDirectories_error_iff.symm
  cases verdict : first.makeDirectories job.directory with
  | error fault =>
      rw [(refusedAlike fault).mp verdict]
      exact ⟨rfl, same⟩
  | ok changed =>
      cases otherVerdict : second.makeDirectories job.directory with
      | error fault =>
          rw [(refusedAlike fault).mpr otherVerdict] at verdict
          cases verdict
      | ok otherChanged =>
          have before := (sameFor_of_makeDirectories noSlash verdict).symm
          have after := sameFor_of_makeDirectories noSlash otherVerdict
          exact ⟨rfl, before.trans (same.trans after)⟩

theorem agreeOnWay_input
    (noSlash : '/' ∉ job.name)
    (way : Files.AgreeOnWay job.directory first second) :
    Files.AgreeOnWay job.input.dropLast first second := by
  rw [input_eq noSlash, List.dropLast_concat]
  exact way

theorem agreeOnWay_output
    (noSlash : '/' ∉ job.name)
    (way : Files.AgreeOnWay job.directory first second) :
    Files.AgreeOnWay job.output.dropLast first second := by
  rw [output_eq noSlash, List.dropLast_concat]
  exact way

/-- A file is written or refused alike. -/
theorem SameFor.write
    (same : job.SameFor first second)
    {location : Location}
    (agree : Files.AgreeOnWay location.dropLast first second)
    (sameThere : first.find? location = second.find? location)
    (content : Bytes) :
    (∃ fault,
        first.write location content = .error fault ∧
          second.write location content = .error fault) ∨
      ∃ changed otherChanged,
        first.write location content = .ok changed ∧
          second.write location content = .ok otherChanged ∧
          job.SameFor changed otherChanged := by
  cases verdict : first.write location content with
  | error fault =>
      exact Or.inl ⟨fault, rfl, agree.write_error sameThere verdict⟩
  | ok changed =>
      obtain ⟨otherChanged, otherVerdict⟩ := agree.write_ok sameThere verdict
      refine Or.inr ⟨changed, otherChanged, rfl, otherVerdict, ?_, ?_⟩
      · rw [Files.find?_write verdict, Files.find?_write otherVerdict, same.input]
      · rw [Files.find?_write verdict, Files.find?_write otherVerdict, same.output]

/-- A file that may be refused is left alike. -/
theorem SameFor.write_getD
    (same : job.SameFor first second)
    {location : Location}
    (agree : Files.AgreeOnWay location.dropLast first second)
    (sameThere : first.find? location = second.find? location)
    (content : Bytes) :
    job.SameFor ((first.write location content).toOption.getD first)
      ((second.write location content).toOption.getD second) := by
  rcases same.write agree sameThere content with
    ⟨fault, refused, otherRefused⟩ |
    ⟨changed, otherChanged, wrote, otherWrote, sameAfter⟩
  · rw [refused, otherRefused]
    exact same
  · rw [wrote, otherWrote]
    exact sameAfter

theorem SameFor.clear
    (same : job.SameFor first second)
    {location : Location}
    (sameThere : first.find? location = second.find? location)
    (refused : Bool) :
    job.SameFor (clear location refused first)
      (clear location refused second) where
  input := by
    rw [find?_clear, find?_clear, sameThere, same.input]
  output := by
    rw [find?_clear, find?_clear, sameThere, same.output]

/--
States that a job cannot tell apart are followed by such states, if the way to the
working directory is in both as it was at the start or since the directory was made.
-/
theorem step_alike
    {state otherState : Files × JobStage}
    (noSlash : '/' ∉ job.name)
    (keeps : event.KeepsTo job)
    (standing : job.Standing initial state.1 state.2)
    (otherStanding : job.Standing initial otherState.1 otherState.2)
    (alike : job.Alike state otherState) :
    job.Alike (job.step state event) (job.step otherState event) := by
  obtain ⟨first, stage⟩ := state
  obtain ⟨second, otherStage⟩ := otherState
  obtain ⟨sameStage, same⟩ := alike
  cases (sameStage : stage = otherStage)
  -- Whichever job made the directory, the way is the same in both trees from then on.
  have way (atWork : stage.IsAtWork) : Files.AgreeOnWay job.directory first second :=
    (standing.made atWork).agree (otherStanding.made atWork)
  cases stage with
  | preparing =>
      cases event with
      | directory refusal =>
          cases refusal with
          | some fault =>
              exact ⟨rfl, same⟩
          | none =>
              exact attempt_directory_alike noSlash _ _ standing.way
                otherStanding.way same
      | _ =>
          exact ⟨rfl, same⟩
  | writing =>
      cases event with
      | input =>
          rcases same.write (agreeOnWay_input noSlash (way trivial)) same.input
              job.source.utf8 with
            ⟨fault, refused, otherRefused⟩ |
            ⟨changed, otherChanged, wrote, otherWrote, sameAfter⟩
          · simp only [step, refused, otherRefused]
            exact ⟨rfl, same⟩
          · simp only [step, wrote, otherWrote]
            exact ⟨rfl, sameAfter⟩
      | inputRefused fault left =>
          cases left with
          | none =>
              exact ⟨rfl, same⟩
          | some content =>
              exact ⟨rfl, same.write_getD (agreeOnWay_input noSlash (way trivial))
                same.input content⟩
      | _ =>
          exact ⟨rfl, same⟩
  | launching =>
      cases event with
      | launch launch =>
          cases launch <;>
            exact ⟨rfl, same⟩
      | _ =>
          exact ⟨rfl, same⟩
  | running supervision =>
      cases event with
      | acts change =>
          simp only [step]
          split
          · exact ⟨rfl, (keeps change rfl).alike first second (way trivial) same⟩
          · exact ⟨rfl, same⟩
      | _ =>
          exact ⟨rfl, same⟩
  | reading =>
      cases event with
      | output refused =>
          have read :=
            (agreeOnWay_output noSlash (way trivial)).read same.output
          simp only [step, read]
          split <;>
            exact ⟨rfl, same⟩
      | _ =>
          exact ⟨rfl, same⟩
  | clearingInput outcome =>
      cases event with
      | cleared refused =>
          exact ⟨rfl, same.clear same.input refused⟩
      | _ =>
          exact ⟨rfl, same⟩
  | clearingOutput outcome =>
      cases event with
      | cleared refused =>
          exact ⟨rfl, same.clear same.output refused⟩
      | _ =>
          exact ⟨rfl, same⟩
  | «over» outcome =>
      exact ⟨rfl, same⟩

/-! ### Commands that make a document of a source -/

/-- What a command does that writes a document made of the input, or nothing at all. -/
def convert (job : Job) (document? : Bytes → Option Bytes) (files : Files) : Files :=
  match (files.read job.input).toOption.bind document? with
  | none => files
  | some document => (files.write job.output document).toOption.getD files

/-- Such a command keeps to the two files of its job. -/
theorem confines_convert
    (noSlash : '/' ∉ job.name)
    (document? : Bytes → Option Bytes) :
    job.Confines (job.convert document?) where
  elsewhere files := by
    unfold convert
    split
    · exact .refl _ _
    next document made =>
      exact sameElsewhere_write_getD (Or.inr rfl) document files
  alike first second way same := by
    have read := (agreeOnWay_input noSlash way).read same.input
    unfold convert
    rw [read]
    split
    · exact same
    next document made =>
      exact same.write_getD (agreeOnWay_output noSlash way) same.output document

end ContractTemplates.Job
