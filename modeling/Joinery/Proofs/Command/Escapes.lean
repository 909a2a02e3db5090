import Joinery.Proofs.Command.Course
import Joinery.Proofs.Config.Faults
import Joinery.Proofs.Dado.Faults

/-
  A fault leaves a run if the run is not prepared for it. It
  comes from a file that cannot be read, opened or written, or
  it is a number out of the range of doubles: everything else
  that can be wrong with a job is expected.

  Key definitions include:
    * `Command.Arguments.content`
    * `Command.Escapes`

  Key theorems include:
    * `Command.Arguments.job_fails`
    * `Command.Arguments.making_fails`
    * `Command.Escapes.origin`
-/

namespace Joinery

namespace Command

/- What the job file of a run holds, as the files have it for a reader. -/
def Arguments.content
    (arguments : Arguments)
    (reader : YamlReader)
    (tree : FileTree) : Outcome Value := do
  let path ← jobPath arguments.config
  (Disk.requireJob path tree).1
  (Disk.loadYaml reader path tree).1

/- A fault leaves a run at a stage that is not prepared for it. -/
def Escapes
    (reader : YamlReader)
    (arguments : Arguments)
    (tree : FileTree)
    (fault : Fault) : Prop :=
  ∃ stage text, StopsAt reader arguments tree stage fault text ∧
    stage.expects fault.family = false

section Origins

variable {reader : YamlReader}
variable {arguments : Arguments}
variable {tree : FileTree}

/-
  A job fails with its file, with a fault of the job file, or
  with a number out of range.
-/
theorem Arguments.job_fails :
    Fails
      (fun fault =>
        arguments.content reader tree = .error fault ∨
          fault.family = .config ∨ fault.IsOverflow)
      (arguments.job reader tree) := by
  intro fault hFault
  unfold Arguments.job at hFault
  unfold Arguments.content
  cases hPath : jobPath arguments.config with
  | error cause =>
      rw [hPath] at hFault
      cases hFault
      exact Or.inl rfl
  | ok path =>
      rw [hPath, Outcome.ok_bind, Disk.loadJob_result,
        Disk.readJob_result] at hFault
      rw [Outcome.ok_bind]
      cases hFound : (Disk.requireJob path tree).1 with
      | error cause =>
          rw [hFound] at hFault
          cases hFault
          exact Or.inl rfl
      | ok _ =>
          rw [hFound, Outcome.ok_bind] at hFault
          rw [Outcome.ok_bind]
          cases hLoad : (Disk.loadYaml reader path tree).1 with
          | error cause =>
              rw [hLoad] at hFault
              cases hFault
              exact Or.inl rfl
          | ok data =>
              rw [hLoad, Outcome.ok_bind] at hFault
              exact Or.inr (Job.ofValue_fails path.text data fault hFault)

/- Making the G-code of a job fails with the numbers of the job. -/
theorem Arguments.making_fails
    {job : Job}
    (hAcceptable : job.IsAcceptable) :
    Fails Fault.IsOfPath (arguments.making job).1 := by
  have hPlan :=
    Joint.plan_fails hAcceptable.joint hAcceptable.settings .millimeter
  unfold Arguments.making
  cases hMade : planOf job with
  | error fault => exact Fails.error (hPlan fault hMade)
  | ok plan =>
      have hPlain := Plan.isPlain hAcceptable.joint hMade
      have hCount : Fails Fault.IsOfPath (listingOf job plan).count :=
        plan.count_fails hPlain hAcceptable.settings .millimeter { }
      dsimp only
      by_cases hTree : arguments.tree = true
      · have hOutline :=
          plan.outline_fails hPlain hAcceptable.settings .millimeter
            Outline.defaultIndent { }
        rw [if_pos hTree]
        cases hText :
            outline .millimeter Outline.defaultIndent
              (programOf job plan) with
        | error fault => exact Fails.error (hOutline fault hText)
        | ok text => exact Fails.ok _
      · rw [if_neg hTree]
        by_cases hOutput : (target? arguments).isNone = true
        · rw [if_pos hOutput]
          dsimp only
          exact hCount.map _
        · rw [if_neg hOutput]
          dsimp only
          exact hCount.map _

/- A fault of G-code that is not expected is a number out of range. -/
theorem isOverflow_of_unexpected
    {fault : Fault}
    (hPath : fault.IsOfPath)
    (hOther : Stage.path.expects fault.family = false) :
    fault.IsOverflow := by
  have hEither :
      (isPathFault fault.family || decide (fault.family = .overflow)) =
        true := hPath
  have hNone : isPathFault fault.family = false := hOther
  rw [hNone, Bool.false_or, decide_eq_true_iff] at hEither
  exact hEither

/-
  A fault that leaves a run is a number out of range, or comes
  from a file: the job file cannot be read, the log file
  cannot be opened, or the path of the output is none of a
  file.
-/
theorem Escapes.origin
    {fault : Fault}
    (hEscapes : Escapes reader arguments tree fault) :
    fault.IsOverflow ∨ arguments.content reader tree = .error fault ∨
      ∃ stage text, (stage = .log ∨ stage = .file) ∧
        StopsAt reader arguments tree stage fault text := by
  rcases hEscapes with ⟨stage, text, hStops, hOther⟩
  cases hStops with
  | job hJob =>
      rcases Arguments.job_fails fault hJob with
        hContent | hConfig | hRange
      · exact Or.inr (Or.inl hContent)
      · rw [Stage.expects, hConfig] at hOther
        cases hOther
      · exact Or.inl hRange
  | log hJob hLog =>
      exact Or.inr (Or.inr ⟨_, _, Or.inl rfl, .log hJob hLog⟩)
  | path hBegins hMaking =>
      have hFault := Arguments.making_fails
        (job_isAcceptable hBegins.read) fault (congrArg Prod.fst hMaking)
      exact Or.inl (isOverflow_of_unexpected hFault hOther)
  | file hBegins hMaking hTarget hSaving =>
      exact Or.inr (Or.inr ⟨_, _, Or.inr rfl,
        .file hBegins hMaking hTarget hSaving⟩)

end Origins

end Command

end Joinery
