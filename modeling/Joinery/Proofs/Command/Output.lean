import Joinery.Proofs.Command.Ending
import Joinery.Proofs.Dado.Rendering

/-
  A run that fails has written nothing to the output, unless
  it has begun to write G-code there that cannot be completed:
  one of the numbers of the program is infinite, or is no
  number. The lines before that number have been written then.

  Key definitions include:
    * `Command.BreaksOff`

  Key theorems include:
    * `Command.listing_opens`
    * `Command.hasStray_of_listing`
    * `Command.failed_run_output`
    * `Command.broken_off_listing`
-/

namespace Joinery

open World

------------------------------------------------------------
-- The First Lines
------------------------------------------------------------

/- Leaves that can be compiled give the first lines of a listing. -/
theorem Listing.lines_ofLeaves_append
    {u : LengthUnit}
    {leaves : List Operation}
    {lines : List Text}
    (hLines : leaves.mapM (Line.ofOperation u) = .ok lines)
    (rest : List Operation) :
    (ofLeaves u (leaves ++ rest)).lines =
      lines ++ (ofLeaves u rest).lines := by
  induction leaves generalizing lines with
  | nil =>
      cases hLines
      rfl
  | cons leaf leaves ih =>
      rw [List.mapM_cons] at hLines
      rcases Outcome.bind_eq_ok_iff.mp hLines with ⟨line, hLine, hRest⟩
      rcases Outcome.bind_eq_ok_iff.mp hRest with ⟨others, hOthers, hSame⟩
      cases hSame
      rw [List.cons_append, ofLeaves, hLine, List.cons_append,
        ← ih hOthers]

namespace Command

/- The leaves that every program begins with. -/
def openingLeaves : List Operation :=
  [ Instruction.ofPositioning .absolute,
    Instruction.ofUnit .millimeter,
    Instruction.resetCoordinates [("x", .int 0), ("y", .int 0)],
    say "Attach ZProbe - Top",
    Instruction.known "g28" [.token (.text "z")] ]

/- The lines of those leaves. -/
def openingLines : List Text :=
  ["G90", "G28", "G92 X0 Y0", "M0 Attach ZProbe - Top", "G28 Z"]

theorem openingLeaves_compile :
    openingLeaves.mapM (Line.ofOperation .millimeter) =
      .ok openingLines := by
  have hLines :
      (openingLeaves.mapM (Line.ofOperation .millimeter)).toOption.map id =
        some openingLines := by
    decide +kernel
  rcases Outcome.exists_of_toOption hLines with ⟨lines, hCompile, rfl⟩
  exact hCompile

/- A listing of a program begins so, even if the program cannot be completed. -/
theorem listing_opens
    (job : Job)
    (plan : Plan) :
    openingLines <+: (listingOf job plan).lines := by
  have hLeaves :
      ∃ rest, (programOf job plan).leaves = openingLeaves ++ rest := by
    rw [programOf, Plan.leaves_program, cutSteps, List.map_append]
    exact ⟨_, rfl⟩
  rcases hLeaves with ⟨rest, hLeaves⟩
  have hListing :
      listingOf job plan =
        Listing.ofLeaves .millimeter (programOf job plan).leaves := rfl
  rw [hListing, hLeaves,
    Listing.lines_ofLeaves_append openingLeaves_compile]
  exact List.prefix_append _ _

------------------------------------------------------------
-- Failed Runs
------------------------------------------------------------

/-
  The G-code of a run goes to the output, and one of the
  numbers in it is infinite, or is no number.
-/
def BreaksOff
    (reader : YamlReader)
    (arguments : Arguments)
    (tree : FileTree) : Prop :=
  target? arguments = none ∧
    ∃ job plan, arguments.job reader tree = .ok job ∧
      planOf job = .ok plan ∧ plan.HasStray job.settings

section Failed

variable {reader : YamlReader}
variable {arguments : Arguments}
variable {tree : FileTree}
variable {job : Job}
variable {plan : Plan}

/- G-code that is made goes to the output, or nothing does. -/
theorem making_cases
    (hTree : arguments.tree = false)
    (job : Job) :
    (target? arguments = none ∧
        ∃ plan, planOf job = .ok plan ∧
          arguments.making job =
            ((listingOf job plan).count.map fun _ => none,
              (listingOf job plan).text)) ∨
      (arguments.making job).2 = { } ∧
        ¬ (target? arguments = none ∧ ∃ plan, planOf job = .ok plan) := by
  unfold Arguments.making
  cases hPlan : planOf job with
  | error fault =>
      refine Or.inr ⟨rfl, ?_⟩
      rintro ⟨-, plan, hOther⟩
      cases hOther
  | ok plan =>
      dsimp only
      rw [hTree, if_neg Bool.false_ne_true]
      cases hTarget : target? arguments with
      | none => exact Or.inl ⟨rfl, plan, rfl, rfl⟩
      | some target =>
          refine Or.inr ⟨rfl, ?_⟩
          rintro ⟨hNone, -⟩
          cases hNone

/- A listing that is not complete is broken off by a fault. -/
theorem fault_of_count
    {listing : Listing}
    {fault : Fault}
    (hCount :
      (listing.count.map fun _ => (none : Option Text)) = .error fault) :
    listing.fault = some fault := by
  unfold Listing.count at hCount
  cases hFault : listing.fault with
  | none =>
      rw [hFault] at hCount
      cases hCount
  | some cause =>
      rw [hFault] at hCount
      cases hCount
      rfl

/- A listing that is broken off is broken off at a stray number. -/
theorem hasStray_of_listing
    (hJob : arguments.job reader tree = .ok job)
    (hPlan : planOf job = .ok plan)
    {fault : Fault}
    (hFault : (listingOf job plan).fault = some fault)
    (hExpected : isPathFault fault.family = true) :
    plan.HasStray job.settings := by
  have hAcceptable := job_isAcceptable hJob
  have hPlain := Plan.isPlain hAcceptable.joint hPlan
  have hListing :
      (Listing.ofProgram ({ } : Ambient).unit
        (plan.program job.settings { })).fault = some fault := hFault
  exact Plan.hasStray_of_fault hPlain hAcceptable.settings hListing hExpected

/- G-code that breaks off is that of a job with a plan. -/
theorem BreaksOff.hasPlan
    (hJob : arguments.job reader tree = .ok job)
    (hBreaks : BreaksOff reader arguments tree) :
    target? arguments = none ∧ ∃ plan, planOf job = .ok plan := by
  rcases hBreaks with ⟨hNone, other, plan, hOther, hPlan, -⟩
  rw [hJob] at hOther
  cases hOther
  exact ⟨hNone, plan, hPlan⟩

/- A run that is stopped has written nothing, or its G-code breaks off. -/
theorem stopped_text
    (hTree : arguments.tree = false)
    {stage : Stage}
    {fault : Fault}
    {text : Text}
    (hStops : StopsAt reader arguments tree stage fault text)
    (hExpected : stage.expects fault.family = true) :
    (text = { } ∧ ¬ BreaksOff reader arguments tree) ∨
      BreaksOff reader arguments tree ∧
        ∃ job plan, arguments.job reader tree = .ok job ∧
          planOf job = .ok plan ∧ text = (listingOf job plan).text := by
  cases hStops with
  | job hJob =>
      refine Or.inl ⟨rfl, ?_⟩
      rintro ⟨-, job, plan, hOther, -⟩
      rw [hJob] at hOther
      cases hOther
  | log hJob hLog => cases hExpected
  | file hBegins hMaking hTarget hSaving =>
      rename_i job later product target
      rcases making_cases hTree job with ⟨hNone, -⟩ | ⟨hText, hOther⟩
      · rw [hNone] at hTarget
        cases hTarget
      · rw [hMaking] at hText
        exact Or.inl ⟨hText, hOther ∘ BreaksOff.hasPlan hBegins.read⟩
  | path hBegins hMaking =>
      rename_i job later
      rcases making_cases hTree job with
        ⟨hNone, plan, hPlan, hMade⟩ | ⟨hText, hOther⟩
      · rw [hMaking, Prod.mk.injEq] at hMade
        rcases hMade with ⟨hCount, hText⟩
        have hStray := hasStray_of_listing hBegins.read hPlan
          (fault_of_count hCount.symm) hExpected
        exact Or.inr
          ⟨⟨hNone, job, plan, hBegins.read, hPlan, hStray⟩,
            job, plan, hBegins.read, hPlan, hText⟩
      · rw [hMaking] at hText
        exact Or.inl ⟨hText, hOther ∘ BreaksOff.hasPlan hBegins.read⟩

end Failed

/- A text that lines have been added to is another text. -/
theorem append_text_ne
    (before : Text)
    {listing : Listing}
    (hOpens : openingLines <+: listing.lines) :
    before ++ listing.text ≠ before := by
  intro hSame
  rcases hOpens with ⟨rest, hLines⟩
  have hLetters := congrArg (fun t => t.letters.length) hSame
  simp only [Text.letters_append, Listing.letters_text, ← hLines,
    openingLines, List.cons_append, List.flatMap_cons,
    List.length_append, List.length_cons] at hLetters
  omega

/-
  However documents are read: a run without an outline that
  returns one, and whose log file is not the output, has
  written nothing to the output, unless its G-code goes there
  and breaks off. If it breaks off, the lines of the program
  have been written up to the one that has no numeral for its
  number; these begin with the lines that every program
  begins with.
-/
theorem failed_run_output
    (reader : YamlReader)
    (texts : List Text)
    (arguments : Arguments)
    (world : World)
    (hRequest : Request.ofTexts texts = .ok (.run arguments))
    (hTree : arguments.tree = false)
    (hFresh : world.log = { })
    (hClock : ∃ m, Clock.moment world.now = .ok m)
    (hAside : LogsAside reader arguments world)
    (hOne : (run reader texts world).1 = .ok 1) :
    ((run reader texts world).2.output = world.output ↔
      ¬ BreaksOff reader arguments world.tree) ∧
    (BreaksOff reader arguments world.tree →
      ∃ job plan, arguments.job reader world.tree = .ok job ∧
        planOf job = .ok plan ∧
        openingLines <+: (listingOf job plan).lines ∧
        (run reader texts world).2.output =
          world.output ++ (listingOf job plan).text) := by
  rcases run_stopped hRequest hFresh hClock hOne with
    ⟨stage, fault, text, hStops, hExpected, hWent⟩
  rcases stopped_text hTree hStops hExpected with
    ⟨hNothing, hWhole⟩ | ⟨hBreaks, job, plan, hJob, hPlan, hText⟩
  · have hSame : (run reader texts world).2.output = world.output := by
      rw [hWent.output hAside, hNothing, Text.append_empty]
    exact ⟨iff_of_true hSame hWhole, fun hBreaks => absurd hBreaks hWhole⟩
  · have hOpens := listing_opens job plan
    have hOutput :
        (run reader texts world).2.output =
          world.output ++ (listingOf job plan).text := by
      rw [hWent.output hAside, hText]
    refine ⟨?_, fun _ => ⟨job, plan, hJob, hPlan, hOpens, hOutput⟩⟩
    refine iff_of_false ?_ (not_not_intro hBreaks)
    rw [hOutput]
    exact append_text_ne world.output hOpens

/- A run that does not find its job file has written nothing. -/
theorem missing_job_writes_nothing :
    (run Yaml.load ["--config", "job.yaml"] bareWorld).1 = .ok 1 ∧
      (run Yaml.load ["--config", "job.yaml"] bareWorld).2.output = { } := by
  have hJob :
      jobArguments.job Yaml.load bareWorld.tree =
        .error (.configMissing "job.yaml") :=
    rfl
  rcases cutDado_stopped (Request.isChosen jobArguments_request) rfl
      (start_moment (by rfl)) (.job hJob) with ⟨after, hCourse, _⟩
  have hOne : (run Yaml.load ["--config", "job.yaml"] bareWorld).1 = .ok 1 := by
    rw [run_eq jobArguments_request, hCourse]
    rfl
  have hWhole : ¬ BreaksOff Yaml.load jobArguments bareWorld.tree := by
    rintro ⟨-, job, plan, hOther, -⟩
    rw [hJob] at hOther
    cases hOther
  have hAside : LogsAside Yaml.load jobArguments bareWorld := by
    intro job serial later hOther
    rw [hJob] at hOther
    cases hOther
  refine ⟨hOne, ?_⟩
  exact (failed_run_output Yaml.load _ _ bareWorld jobArguments_request rfl
    rfl (start_moment rfl) hAside hOne).1.mpr hWhole

/- A job whose plate has a thickness that is no number. -/
def strayJob : String :=
  "joint:\n" ++
    "  plate_thickness: .nan\n" ++
    "  retract_height: 5\n" ++
    "  stock_thickness: 4\n" ++
    "  cutter_diameter: 2\n" ++
    "  work_offset_x: 20\n" ++
    "  pass_length: 60\n"

/- The G-code of that job breaks off at the thickness of the plate. -/
theorem strayJob_making :
    ∃ job fault,
      jobArguments.job Yaml.load (jobWorld strayJob).tree = .ok job ∧
        job.logging.file = none ∧
        isPathFault fault.family = true ∧
        jobArguments.making job =
          (.error fault, Text.join (openingLines.map (· ++ "\n"))) := by
  have hRead :
      ∃ chars, strayJob = String.ofList chars ∧
        IsShortSource chars ∧
        (jobOfChars chars).toOption.map
            (fun job =>
              (job.logging.file,
                ((jobArguments.making job).1.map fun _ => ()).mapError
                  Fault.family,
                (jobArguments.making job).2)) =
          some
            (none, Except.error .operand,
              Text.join (openingLines.map (· ++ "\n"))) := by
    apply Exists.intro
    constructor
    · unfold strayJob
      repeat' apply append_eq_ofList
      all_goals rfl
    · decide +kernel
  rcases hRead with ⟨chars, hChars, hShort, hMade⟩
  have hJob :
      jobArguments.job Yaml.load (jobWorld strayJob).tree = jobOfChars chars :=
    jobWorld_job rfl hChars hShort
  rcases Outcome.exists_of_toOption hMade with ⟨job, hLoad, hParts⟩
  rw [Prod.mk.injEq, Prod.mk.injEq] at hParts
  rcases hParts with ⟨hFile, hFamily, hText⟩
  rcases hMaking : jobArguments.making job with ⟨outcome, text⟩
  rw [hMaking] at hFamily hText
  cases outcome with
  | ok product? => cases hFamily
  | error fault =>
      have hOperand : fault.family = .operand := Except.error.inj hFamily
      refine ⟨job, fault, hJob.trans hLoad, hFile, ?_, ?_⟩
      · rw [hOperand]
        rfl
      · exact hMaking.trans (congrArg (Prod.mk _) hText)

/-
  A run with that job returns one when it has written the
  first lines of its program to the output.
-/
theorem broken_off_listing :
    Request.ofTexts ["--config", "job.yaml"] =
        .ok (.run jobArguments) ∧
      jobArguments.tree = false ∧
      (run Yaml.load ["--config", "job.yaml"] (jobWorld strayJob)).1 = .ok 1 ∧
      (run Yaml.load ["--config", "job.yaml"] (jobWorld strayJob)).2.output =
        "G90\nG28\nG92 X0 Y0\nM0 Attach ZProbe - Top\nG28 Z\n" := by
  rcases strayJob_making with ⟨job, fault, hJob, hFile, hExpected, hMaking⟩
  have hOpened :
      Disk.openLog (jobSetup jobArguments job.logging).file
          (jobWorld strayJob).tree =
        (.ok none, (jobWorld strayJob).tree) := by
    unfold jobSetup
    rw [hFile]
    rfl
  rcases cutDado_stopped (Request.isChosen jobArguments_request) rfl
      (start_moment (by rfl)) (.path ⟨hJob, none, hOpened⟩ hMaking) with
    ⟨after, hCourse, hWent, -⟩
  rw [run_eq jobArguments_request, hCourse]
  refine ⟨jobArguments_request, rfl, ending_of_expected hExpected, ?_⟩
  have hAside :
      LogsAside Yaml.load jobArguments (jobWorld strayJob) := by
    rintro _ _ _ - - ⟨⟩
  rw [hWent.output hAside]
  rfl

end Command

end Joinery
