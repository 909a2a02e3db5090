import Joinery.Proofs.Command.Setup
import Joinery.Proofs.Config.Reading
import Joinery.Proofs.Dado.Steps

/-
  The parts of a run: the job is read from the files, and the
  G-code is made from the job. What comes of a part, and what
  it writes to the output, does not depend on the world but
  for the files.

  Key definitions include:
    * `Run.Reads`
    * `Command.Arguments.job`
    * `Command.Arguments.making`

  Key theorems include:
    * `Command.readJob_reads`
    * `Command.toolpath_does`
    * `Command.product_does`
-/

namespace Joinery

open World

namespace Run

variable {α β : Type}

------------------------------------------------------------
-- Reading
------------------------------------------------------------

/-
  Wherever only the console is logged to, a part of a run
  writes nothing and leaves the files as they are. Its result
  is a matter of the files.
-/
def Reads
    (act : Run α)
    (result : FileTree → Outcome α) : Prop :=
  ∀ world, world.IsSetUp → world.HasOnlyConsole →
    (act world).1 = result world.tree ∧ Ran world (act world).2 { }

theorem Does.reads
    {act : Run α}
    {result : Outcome α}
    (hDoes : Does act result { }) :
    Reads act fun _ => result := by
  intro world hSetUp _
  exact hDoes world hSetUp

theorem reads_onDisk
    {act : Disk α}
    (hLooks : Disk.Looks act) :
    Reads (onDisk act) fun tree => (act tree).1 := by
  intro world _ _
  have hSame : (onDisk act world).2 = world := by
    show { world with tree := (act world.tree).2 } = world
    rw [hLooks world.tree]
  refine ⟨rfl, ?_⟩
  rw [hSame]
  exact Ran.refl world

theorem Reads.bind
    {act : Run α}
    {next : α → Run β}
    {first : FileTree → Outcome α}
    {later : α → FileTree → Outcome β}
    (hAct : Reads act first)
    (hNext : ∀ a, Reads (next a) (later a)) :
    Reads (act >>= next)
      fun tree => first tree >>= fun a => later a tree := by
  intro world hSetUp hOnly
  rcases hAct world hSetUp hOnly with ⟨hResult, hRan⟩
  cases hFirst : first world.tree with
  | error fault =>
      rw [hFirst] at hResult
      rw [Stateful.bind_of_error (Prod.ext hResult rfl)]
      refine ⟨?_, hRan⟩
      simp only [hFirst]
      rfl
  | ok a =>
      rw [hFirst] at hResult
      rw [Stateful.bind_of_ok (Prod.ext hResult rfl)]
      rcases hNext a (act world).2 (hRan.isSetUp hSetUp)
          (hRan.hasOnlyConsole hOnly) with ⟨hLater, hRest⟩
      rw [hRan.kept hOnly] at hLater
      have hBoth := hRan.trans hRest
      rw [Text.empty_append] at hBoth
      refine ⟨?_, hBoth⟩
      simp only [hFirst]
      exact hLater

/- What does nothing else does not matter for a reading. -/
theorem Reads.after
    {act : Run PUnit}
    {next : PUnit → Run β}
    {later : FileTree → Outcome β}
    (hAct : Does act (.ok ⟨⟩) { })
    (hNext : Reads (next ⟨⟩) later) :
    Reads (act >>= next) later :=
  Reads.bind hAct.reads fun _ => hNext

end Run

namespace Command

open Run

theorem info_does
    (logger message : String)
    (args : List Value) :
    Does (info logger message args) (.ok ⟨⟩) { } :=
  log_does (by decide) logger message args

theorem debug_does
    (logger message : String)
    (args : List Value) :
    Does (debug logger message args) (.ok ⟨⟩) { } :=
  log_does (by decide) logger message args

------------------------------------------------------------
-- Jobs
------------------------------------------------------------

/- The job of a run, as the files have it for a reader. -/
def Arguments.job
    (arguments : Arguments)
    (reader : YamlReader)
    (tree : FileTree) : Outcome Job := do
  let path ← jobPath arguments.config
  (Disk.loadJob reader path tree).1

theorem readJob_reads
    (reader : YamlReader)
    (arguments : Arguments) :
    Reads (readJob reader arguments.config) (arguments.job reader) := by
  have hSame :
      arguments.job reader = fun tree =>
        jobPath arguments.config >>= fun path =>
          (Disk.requireJob path tree).1 >>= fun _ =>
            (Disk.readJob reader path tree).1 >>= fun job => .ok job := by
    funext tree
    unfold Arguments.job
    refine congrArg (jobPath arguments.config >>= ·) ?_
    funext path
    rw [Disk.loadJob_result]
    exact (bind_assoc _ _ _).symm.trans (bind_pure _) |>.symm
  rw [hSame]
  unfold readJob
  refine Reads.bind (Does.ofOutcome _).reads fun path => ?_
  refine Reads.bind (reads_onDisk (Disk.requireJob_looks path))
    fun _ => ?_
  refine Reads.after (info_does _ _ _) ?_
  refine Reads.bind (reads_onDisk (Disk.readJob_looks reader path))
    fun job => ?_
  refine Reads.after (info_does _ _ _) ?_
  exact (Does.pure job).reads

------------------------------------------------------------
-- Making The G-Code
------------------------------------------------------------

/- The plan of a job, in the unit that the command works in. -/
def planOf
    (job : Job) : Outcome Plan :=
  job.joint.plan job.settings .millimeter

/- The program of a plan, in the state that the command works in. -/
def programOf
    (job : Job)
    (plan : Plan) : Operation :=
  plan.program job.settings { }

/- The lines of the program of a plan. -/
def listingOf
    (job : Job)
    (plan : Plan) : Listing :=
  Listing.ofProgram .millimeter (programOf job plan)

/- The program of a job is generated from its plan. -/
theorem toolpath_does
    (job : Job) :
    Does (toolpath job) ((planOf job).map (programOf job)) { } := by
  have hSame :
      (planOf job).map (programOf job) =
        (job.joint.converted .millimeter >>= fun plain =>
          Geometry.ofJoint job.settings plain >>= fun geometry =>
            (cut job.settings plain geometry).result { }) := by
    unfold planOf Joint.plan
    cases job.joint.converted .millimeter with
    | error fault => rfl
    | ok plain =>
        rw [Outcome.ok_bind, Outcome.ok_bind]
        cases Geometry.ofJoint job.settings plain with
        | error fault => rfl
        | ok geometry =>
            exact (cut_result ⟨plain, geometry⟩ job.settings { }).symm
  rw [hSame]
  unfold toolpath
  refine Does.andThen (Does.ofOutcome _) fun plain => ?_
  refine Does.before (debug_does _ _ _) ?_
  refine Does.andThen (Does.ofOutcome _) fun geometry => ?_
  refine Does.before (debug_does _ _ _) ?_
  exact Does.ofOutcome _

/-
  What comes of making the G-code of a job, and what is
  written to the output meanwhile. The text for a file is not
  written there.
-/
def Arguments.making
    (arguments : Arguments)
    (job : Job) : Outcome (Option Text) × Text :=
  match planOf job with
  | .error fault => (.error fault, { })
  | .ok plan =>
      if arguments.tree then
        match
          outline .millimeter Outline.defaultIndent
            (programOf job plan) with
        | .error fault => (.error fault, { })
        | .ok text => (.ok none, text)
      else
        let listing := listingOf job plan
        if (target? arguments).isNone then
          (listing.count.map fun _ => none, listing.text)
        else (listing.count.map fun _ => some listing.text, { })

/- The lines are counted at the end, and nothing else is done. -/
theorem finish_does
    (listing : Listing) :
    Does (finish listing) listing.count { } := by
  unfold finish
  cases hCount : listing.count with
  | error fault =>
      refine Does.bind_error ?_ _
      rw [← hCount]
      exact Does.ofOutcome _
  | ok count =>
      refine Does.before (?_ : Does _ (.ok count) { }) ?_
      · rw [← hCount]
        exact Does.ofOutcome _
      · refine Does.before (debug_does _ _ _) ?_
        exact Does.pure count

theorem emit_does
    (op : Operation) :
    Does (emit op)
      ((Listing.ofProgram .millimeter op).count.map fun _ => ⟨⟩)
      (Listing.ofProgram .millimeter op).text := by
  have hCounted :=
    (finish_does (Listing.ofProgram .millimeter op)).mapped
      fun count =>
        info_does commandLogger "Emitted %d G-code lines" [.int count]
  exact Does.thenSilent (Does.print _) hCounted

theorem renderText_does
    (op : Operation) :
    Does (renderText op)
      ((Listing.ofProgram .millimeter op).count.map fun _ =>
        (Listing.ofProgram .millimeter op).text) { } :=
  (finish_does _).mapped fun _ => Does.pure _

/- Making the G-code goes as its plan and its listing go. -/
theorem product_does
    (arguments : Arguments)
    (job : Job) :
    Does (product arguments job) (arguments.making job).1
      (arguments.making job).2 := by
  have hPath := toolpath_does job
  unfold product Arguments.making
  cases hPlan : planOf job with
  | error fault =>
      rw [hPlan] at hPath
      exact hPath.bind_error _
  | ok plan =>
      rw [hPlan] at hPath
      refine hPath.before ?_
      dsimp only
      by_cases hTree : arguments.tree = true
      · rw [if_pos hTree, if_pos hTree]
        cases hText :
            outline .millimeter Outline.defaultIndent
              (programOf job plan) with
        | error fault => exact Does.bind_error (Does.ofOutcome _) _
        | ok text =>
            refine Does.before (Does.ofOutcome _) ?_
            exact Does.thenSilent (Does.print text) (Does.pure none)
      · rw [if_neg hTree, if_neg hTree]
        by_cases hOutput : (target? arguments).isNone = true
        · rw [if_pos hOutput, if_pos hOutput]
          have hEmit := emit_does (programOf job plan)
          unfold listingOf
          dsimp only
          cases hCount :
              (Listing.ofProgram .millimeter
                (programOf job plan)).count with
          | error fault =>
              rw [hCount] at hEmit
              exact hEmit.bind_error _
          | ok count =>
              rw [hCount] at hEmit
              exact hEmit.thenSilent (Does.pure none)
        · rw [if_neg hOutput, if_neg hOutput]
          have hText := renderText_does (programOf job plan)
          unfold listingOf
          dsimp only
          cases hCount :
              (Listing.ofProgram .millimeter
                (programOf job plan)).count with
          | error fault =>
              rw [hCount] at hText
              exact hText.bind_error _
          | ok count =>
              rw [hCount] at hText
              exact hText.before (Does.pure _)

end Command

end Joinery
