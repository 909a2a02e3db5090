import Joinery.Proofs.Command.Output

/-
  The options of the command that are about logging change
  nothing but the log. Two runs whose command lines are the
  same but for these options end in the same way, write the
  same to the output, and leave the same in the file that the
  G-code goes to. None of what is logged gets to the output,
  unless the log file is the output under another name.

  Key definitions include:
    * `Command.Request.unlogged`
    * `Command.LogsElsewhere`

  Key theorems include:
    * `Disk.openLog_avoids`
    * `Command.remains_avoids`
    * `Command.log_options_keep_product`
    * `Command.log_options_that_matter`
-/

namespace Joinery

open World

------------------------------------------------------------
-- Contents
------------------------------------------------------------

/- A file that is not logged to is the same if the trees are. -/
theorem FileTree.SameBut.contentAt?_eq
    {log? : Option Nat}
    {tree other : FileTree}
    (hSame : SameBut log? tree other)
    {path : Path}
    (hElsewhere :
      ∀ serial, log? = some serial →
        tree.entry? (tree.goal path) ≠ some (.file serial)) :
    tree.contentAt? path = other.contentAt? path := by
  unfold contentAt?
  rw [← hSame.alike.locate path]
  split
  · rfl
  · cases hLeads : tree.locate path with
    | error fault => rfl
    | ok place =>
        rw [goal_of_locate hLeads] at hElsewhere
        dsimp only
        unfold read?
        rw [← hSame.entry place]
        cases hEntry : tree.entry? place with
        | none => rfl
        | some entry =>
            cases entry with
            | directory => rfl
            | file serial =>
                have hOther : log? ≠ some serial := fun hLog =>
                  hElsewhere serial hLog hEntry
                exact congrArg some (hSame.bytes serial hOther)

/-
  A log file that is opened is at no place at which there is
  another file, or no file at all.
-/
theorem Disk.openLog_avoids
    {name : Text}
    {tree later : FileTree}
    (hSound : tree.IsSound)
    {places : List Location}
    (hApart :
      ∀ place ∈ places,
        tree.AreApart
          (tree.goal ((Path.ofText name).flattened tree.home)) place)
    {serial : Nat}
    (hOpened : openLog (.text name) tree = (.ok (some serial), later)) :
    later.home = tree.home ∧ later.Avoids serial places := by
  rcases openLog_cases hOpened with
    ⟨-, hNone, -⟩ | ⟨path, made, number, hPath, hMade, hOpen, hSome⟩
  · cases hNone
  · cases hPath
    cases hSome
    have hMaintains :
        Maintains
          (fun later =>
            later.home = tree.home ∧ later.IsSound ∧
              ∀ place ∈ places,
                later.AreApart
                  (tree.goal ((Path.ofText name).flattened tree.home))
                  place)
          (makeDirectory (Path.ofText name).parent) := by
      apply makeDirectory_maintains
      rintro later place ⟨hHome, hSound, hApart⟩
      exact
        ⟨hHome, hSound.putDirectory place,
          fun key hMem => (hApart key hMem).putDirectory place⟩
    have hAll := hMaintains tree ⟨rfl, hSound, hApart⟩
    rw [hMade] at hAll
    rcases hAll with ⟨hHome, hSound, hApart⟩
    dsimp only at hHome hSound hApart
    rw [← FileTree.goal_of_home hHome, ← hHome] at hApart
    rcases openFile_cases ((Path.ofText name).flattened made.home)
        made with
      ⟨fault, hFault⟩ | ⟨place, hLeads, ⟨_, hEntry, hSame⟩ | ⟨-, hNew⟩⟩
    · rw [hFault] at hOpen
      cases hOpen
    · rw [hSame] at hOpen
      cases hOpen
      rw [FileTree.goal_of_locate hLeads] at hApart
      exact
        ⟨hHome, hSound place _ hEntry,
          fun key hMem => (hApart key hMem).files _ hEntry⟩
    · rw [hNew] at hOpen
      cases hOpen
      rw [FileTree.goal_of_locate hLeads] at hApart
      refine ⟨hHome, ?_, ?_⟩
      · rw [FileTree.freshSerial_write]
        exact lt_max_of_lt_right (Nat.lt_succ_self _)
      · intro key hMem hEntry
        have hPut :
            FileTree.entry?
                (made.put place (.file made.freshSerial)) key =
              some (.file made.freshSerial) := hEntry
        rw [FileTree.entry?_put] at hPut
        split at hPut
        · cases hPut
        · rw [if_neg (hApart key hMem).places.symm] at hPut
          exact lt_irrefl _ (hSound key _ hPut)

namespace Command

------------------------------------------------------------
-- Requests But For Logging
------------------------------------------------------------

/- What arguments ask for, but for the log. -/
def Arguments.unlogged
    (arguments : Arguments) : Arguments :=
  { arguments with
    logLevel := none
    logJson := false }

/- What a request asks for, but for the log. -/
def Request.unlogged : Request → Request
  | .help => .help
  | .run arguments => .run arguments.unlogged

section Relogged

variable {reader : YamlReader}
variable {arguments other : Arguments}
variable {tree : FileTree}

/- Arguments that ask for the same differ in two fields only. -/
theorem eq_of_unlogged
    (hSame : arguments.unlogged = other.unlogged) :
    arguments =
      { other with
        logLevel := arguments.logLevel
        logJson := arguments.logJson } := by
  rcases arguments with ⟨config, output, tree, logLevel, logJson⟩
  rcases other with ⟨_, _, _, _, _⟩
  cases hSame
  rfl

/- Where a run is stopped does not depend on how it is logged. -/
theorem StopsAt.relogged
    (hSame : arguments.unlogged = other.unlogged)
    {stage : Stage}
    {fault : Fault}
    {text : Text}
    (hStops : StopsAt reader arguments tree stage fault text) :
    StopsAt reader other tree stage fault text := by
  rw [eq_of_unlogged hSame] at hStops
  cases hStops with
  | job hJob => exact .job hJob
  | log hJob hLog => exact .log hJob hLog
  | path hBegins hMaking =>
      exact .path ⟨hBegins.read, hBegins.opened⟩ hMaking
  | file hBegins hMaking hTarget hSaving =>
      exact .file ⟨hBegins.read, hBegins.opened⟩ hMaking hTarget hSaving

/- Nor does it matter for a run that finishes. -/
theorem Finishes.relogged
    (hSame : arguments.unlogged = other.unlogged)
    {text : Text}
    (hFinishes : Finishes reader arguments tree text) :
    Finishes reader other tree text := by
  rw [eq_of_unlogged hSame] at hFinishes
  cases hFinishes with
  | written hBegins hMaking =>
      exact .written ⟨hBegins.read, hBegins.opened⟩ hMaking
  | saved hBegins hMaking hTarget hSaving =>
      exact .saved ⟨hBegins.read, hBegins.opened⟩ hMaking hTarget hSaving

/- Nor do the files that remain, or the place where they are. -/
theorem remains_relogged
    (hSame : arguments.unlogged = other.unlogged)
    (reader : YamlReader)
    (tree : FileTree) :
    arguments.remains reader tree = other.remains reader tree := by
  rw [eq_of_unlogged hSame]
  rfl

theorem target?_relogged
    (hSame : arguments.unlogged = other.unlogged) :
    target? arguments = target? other := by
  rw [eq_of_unlogged hSame]
  rfl

end Relogged

------------------------------------------------------------
-- Logging Elsewhere
------------------------------------------------------------

/-
  The log file of the job, if it names one, is neither the
  file that the G-code goes to nor the temporary file that
  it is first written to.
-/
def LogsElsewhere
    (reader : YamlReader)
    (arguments : Arguments)
    (tree : FileTree) : Prop :=
  ∀ job name target, arguments.job reader tree = .ok job →
    job.logging.file = some name → target? arguments = some target →
    ∀ place ∈ tree.writtenAt (Path.ofText target),
      tree.AreApart
        (tree.goal ((Path.ofText name).flattened tree.home)) place

theorem LogsElsewhere.relogged
    {reader : YamlReader}
    {arguments other : Arguments}
    {tree : FileTree}
    (hElsewhere : LogsElsewhere reader arguments tree)
    (hSame : arguments.unlogged = other.unlogged) :
    LogsElsewhere reader other tree := by
  rw [eq_of_unlogged hSame] at hElsewhere
  exact hElsewhere

/- Nor is it a matter of the log whether its file is the output. -/
theorem LogsAside.relogged
    {reader : YamlReader}
    {arguments other : Arguments}
    {world : World}
    (hAside : LogsAside reader arguments world)
    (hSame : arguments.unlogged = other.unlogged) :
    LogsAside reader other world := by
  rw [eq_of_unlogged hSame] at hAside
  exact hAside

section Elsewhere

variable {reader : YamlReader}
variable {arguments : Arguments}
variable {tree : FileTree}

/-
  The log file gets neither to the place of the target nor to
  that of its temporary file.
-/
theorem remains_avoids
    (hSound : tree.IsSound)
    (hElsewhere : LogsElsewhere reader arguments tree)
    {target : Text}
    (hTarget : target? arguments = some target)
    {serial : Nat}
    (hLogged : (arguments.remains reader tree).log? = some serial) :
    (arguments.remains reader tree).tree.home = tree.home ∧
      (arguments.remains reader tree).tree.Avoids serial
        (tree.writtenAt (Path.ofText target)) := by
  cases hJob : arguments.job reader tree with
  | error fault =>
      rw [remains_of_noJob hJob] at hLogged
      cases hLogged
  | ok job =>
      rcases hLog :
          Disk.openLog (jobSetup arguments job.logging).file tree with
        ⟨outcome, later⟩
      cases outcome with
      | error fault =>
          rw [remains_of_noLog hJob hLog] at hLogged
          cases hLogged
      | ok log? =>
          have hOpened :
              log? = some serial →
                later.home = tree.home ∧
                  later.Avoids serial
                    (tree.writtenAt (Path.ofText target)) := by
            rintro rfl
            cases hFile : job.logging.file with
            | none =>
                rw [jobSetup, hFile] at hLog
                cases hLog
            | some name =>
                rw [jobSetup, hFile] at hLog
                exact Disk.openLog_avoids hSound
                  (hElsewhere job name target hJob hFile hTarget) hLog
          by_cases hSaving :
              ∃ product, (arguments.making job).1 = .ok (some product)
          · rcases hSaving with ⟨product, hMade⟩
            rw [remains_of_saving hJob hLog (Prod.ext hMade rfl) hTarget]
              at hLogged ⊢
            rcases hOpened hLogged with ⟨hHome, hAvoids⟩
            rw [← FileTree.writtenAt_of_home hHome] at hAvoids ⊢
            rw [← hHome]
            exact Disk.writeTextAtomically_avoids hAvoids _ _
          · rw [remains_of_unsaved hJob hLog (not_exists.mp hSaving)]
              at hLogged ⊢
            exact hOpened hLogged

/- The files that remain agree with those that a run leaves at the target. -/
theorem contentAt?_remains
    (hSound : tree.IsSound)
    (hElsewhere : LogsElsewhere reader arguments tree)
    {target : Text}
    (hTarget : target? arguments = some target)
    {last : FileTree}
    (hLeaves : Leaves reader arguments tree last) :
    last.contentAt? (Path.ofText target) =
      (arguments.remains reader tree).tree.contentAt? (Path.ofText target) := by
  refine ((hLeaves hSound).contentAt?_eq ?_).symm
  intro serial hLogged
  rcases remains_avoids hSound hElsewhere hTarget hLogged with
    ⟨hHome, hAvoids⟩
  rw [FileTree.goal_of_home hHome]
  exact hAvoids.absent _ (FileTree.mem_writtenAt tree _)

end Elsewhere

------------------------------------------------------------
-- Texts Of A Run
------------------------------------------------------------

/- What a run writes to the output is made of its job, if anything is. -/
def IsOutput
    (reader : YamlReader)
    (arguments : Arguments)
    (tree : FileTree)
    (text : Text) : Prop :=
  text = { } ∨
    ∃ job, arguments.job reader tree = .ok job ∧
      text = (arguments.making job).2

theorem StopsAt.isOutput
    {reader : YamlReader}
    {arguments : Arguments}
    {tree : FileTree}
    {stage : Stage}
    {fault : Fault}
    {text : Text}
    (hStops : StopsAt reader arguments tree stage fault text) :
    IsOutput reader arguments tree text := by
  cases hStops with
  | job hJob => exact Or.inl rfl
  | log hJob hLog => exact Or.inl rfl
  | path hBegins hMaking =>
      exact Or.inr ⟨_, hBegins.read, (congrArg Prod.snd hMaking).symm⟩
  | file hBegins hMaking hTarget hSaving =>
      exact Or.inr ⟨_, hBegins.read, (congrArg Prod.snd hMaking).symm⟩

theorem Finishes.isOutput
    {reader : YamlReader}
    {arguments : Arguments}
    {tree : FileTree}
    {text : Text}
    (hFinishes : Finishes reader arguments tree text) :
    IsOutput reader arguments tree text := by
  cases hFinishes with
  | written hBegins hMaking =>
      exact Or.inr ⟨_, hBegins.read, (congrArg Prod.snd hMaking).symm⟩
  | saved hBegins hMaking hTarget hSaving =>
      exact Or.inr ⟨_, hBegins.read, (congrArg Prod.snd hMaking).symm⟩

/- A run comes to its end, and leaves what remains of it. -/
theorem cutDado_ends
    {world : World}
    (hFresh : world.log = { })
    (hClock : ∃ m, Clock.moment world.now = .ok m)
    (reader : YamlReader)
    (arguments : Arguments) :
    ∃ result text,
      IsOutput reader arguments world.tree text ∧
        ∀ other : Arguments, other.IsChosen →
          arguments.unlogged = other.unlogged →
          (cutDado reader other world).1 = result ∧
            (LogsAside reader other world →
              (cutDado reader other world).2.output =
                world.output ++ text) ∧
            Leaves reader other world.tree
              (cutDado reader other world).2.tree := by
  rcases finishes_or_stops reader arguments world.tree with
    ⟨text, hFinishes⟩ | ⟨stage, fault, text, hStops⟩
  · refine ⟨.ok 0, text, hFinishes.isOutput, ?_⟩
    intro other hOther hSame
    rcases cutDado_finished hOther hFresh hClock
        (hFinishes.relogged hSame) with ⟨after, hCourse, hWent, hLeaves⟩
    rw [hCourse]
    exact ⟨rfl, hWent.output, hLeaves⟩
  · refine ⟨stage.ending fault, text, hStops.isOutput, ?_⟩
    intro other hOther hSame
    rcases cutDado_stopped hOther hFresh hClock
        (hStops.relogged hSame) with ⟨after, hCourse, hWent, hLeaves⟩
    rw [hCourse]
    exact ⟨rfl, hWent.output, hLeaves⟩

------------------------------------------------------------
-- Two Runs
------------------------------------------------------------

/-
  Command lines that are read the same but for logging are
  both refused, or both ask for help, or for runs that are the
  same but for logging.
-/
theorem unlogged_cases
    {first second : Except UsageFault Request}
    (hSame :
      first.map Request.unlogged = second.map Request.unlogged) :
    (∃ fault cause, first = .error fault ∧ second = .error cause) ∨
      (first = .ok .help ∧ second = .ok .help) ∨
      ∃ arguments other : Arguments,
        first = .ok (.run arguments) ∧ second = .ok (.run other) ∧
          arguments.unlogged = other.unlogged := by
  cases first with
  | error fault =>
      cases second with
      | error cause => exact Or.inl ⟨fault, cause, rfl, rfl⟩
      | ok request => cases hSame
  | ok request =>
      cases second with
      | error cause => cases hSame
      | ok asked =>
          have hUnlogged : request.unlogged = asked.unlogged :=
            Except.ok.inj hSame
          cases request with
          | help =>
              cases asked with
              | help => exact Or.inr (Or.inl ⟨rfl, rfl⟩)
              | run other => cases hUnlogged
          | run arguments =>
              cases asked with
              | help => cases hUnlogged
              | run other =>
                  exact Or.inr (Or.inr
                    ⟨arguments, other, rfl, rfl,
                      Request.run.inj hUnlogged⟩)

/- A command line that is refused changes no files and writes nothing. -/
theorem run_refused
    {texts : List Text}
    {fault : UsageFault}
    (hRefused : Request.ofTexts texts = .error fault)
    (reader : YamlReader)
    (world : World) :
    (run reader texts world).1 = .ok 2 ∧
      (run reader texts world).2.output = world.output ∧
      (run reader texts world).2.tree = world.tree := by
  unfold run
  rw [hRefused]
  exact ⟨rfl, rfl, rfl⟩

/- A run that is asked for help gives it, and does nothing else. -/
theorem run_help
    {texts : List Text}
    (hHelp : Request.ofTexts texts = .ok .help)
    (reader : YamlReader)
    (world : World) :
    run reader texts world = (.ok 0, world.print help) := by
  unfold run
  rw [hHelp]
  rfl

/-
  However documents are read, two runs from the same world end
  in the same way and write the same to the output, if their
  command lines are read the same but for the options about
  logging. What they write to the output is help, or is made
  of the job, if the log file of the job is not the output. If
  the log file is neither the target of the G-code nor the
  temporary file beside it, they leave the same content at
  the target.
-/
theorem log_options_keep_product
    (reader : YamlReader)
    (texts others : List Text)
    (world : World)
    (hSame :
      (Request.ofTexts texts).map Request.unlogged =
        (Request.ofTexts others).map Request.unlogged)
    (hFresh : world.log = { })
    (hClock : ∃ m, Clock.moment world.now = .ok m)
    (hSound : world.tree.IsSound) :
    (run reader texts world).1 = (run reader others world).1 ∧
      ((∀ arguments, Request.ofTexts texts = .ok (.run arguments) →
          LogsAside reader arguments world) →
        ∃ text,
          (run reader texts world).2.output = world.output ++ text ∧
            (run reader others world).2.output = world.output ++ text ∧
            (text = help ∨ text = { } ∨
              ∃ arguments job,
                Request.ofTexts texts = .ok (.run arguments) ∧
                  arguments.job reader world.tree = .ok job ∧
                  text = (arguments.making job).2)) ∧
      ∀ arguments target,
        Request.ofTexts texts = .ok (.run arguments) →
          target? arguments = some target →
          LogsElsewhere reader arguments world.tree →
          (run reader texts world).2.tree.contentAt? (Path.ofText target) =
            (run reader others world).2.tree.contentAt?
              (Path.ofText target) := by
  rcases unlogged_cases hSame with
    ⟨fault, cause, hFirst, hSecond⟩ | ⟨hFirst, hSecond⟩ |
      ⟨arguments, other, hFirst, hSecond, hArguments⟩
  · -- both command lines are refused
    rcases run_refused hFirst reader world with ⟨hTwo, hNone, -⟩
    rcases run_refused hSecond reader world with ⟨hOther, hNothing, -⟩
    rw [hFirst]
    refine ⟨hTwo.trans hOther.symm, fun _ => ⟨{ }, ?_, ?_, ?_⟩, ?_⟩
    · rw [hNone, Text.append_empty]
    · rw [hNothing, Text.append_empty]
    · exact Or.inr (Or.inl rfl)
    · rintro arguments target ⟨⟩
  · -- both ask for help
    rw [run_help hFirst, run_help hSecond, hFirst]
    refine ⟨rfl, fun _ => ⟨help, rfl, rfl, Or.inl rfl⟩, ?_⟩
    rintro arguments target ⟨⟩
  · -- both ask for a run
    rcases cutDado_ends hFresh hClock reader arguments with
      ⟨result, text, hText, hRuns⟩
    rcases hRuns arguments (Request.isChosen hFirst) rfl with
      ⟨hResult, hOutput, hLeaves⟩
    rcases hRuns other (Request.isChosen hSecond) hArguments with
      ⟨hOther, hSecondly, hLeft⟩
    rw [run_eq hFirst, run_eq hSecond, hFirst]
    refine ⟨hResult.trans hOther.symm, fun hAsides => ?_, ?_⟩
    · have hAside := hAsides arguments rfl
      refine ⟨text, hOutput hAside,
        hSecondly (hAside.relogged hArguments), ?_⟩
      rcases hText with hNone | ⟨job, hJob, hMade⟩
      · exact Or.inr (Or.inl hNone)
      · exact Or.inr (Or.inr ⟨arguments, job, rfl, hJob, hMade⟩)
    · rintro _ target ⟨⟩ hTarget hElsewhere
      have hTargetToo : target? other = some target :=
        (target?_relogged hArguments).symm.trans hTarget
      rw [contentAt?_remains hSound hElsewhere hTarget hLeaves,
        contentAt?_remains hSound (hElsewhere.relogged hArguments)
          hTargetToo hLeft,
        remains_relogged hArguments]

------------------------------------------------------------
-- Runs With A Job File
------------------------------------------------------------

/- Only the job file is there. -/
theorem jobWorld_place
    (content : String)
    (place : Location) :
    FileTree.entry? (jobWorld content).tree place =
      if place = [] then some .directory
      else if place = [("job.yaml" : Text)] then some (.file 0)
      else none := by
  have hBare : bareWorld.tree.entries = [] := rfl
  show FileTree.entry? (bareWorld.tree.put ["job.yaml"] (.file 0)) place = _
  rw [FileTree.entry?_put, FileTree.entry?, hBare, List.lookup_nil]
  split <;> rfl

/- The job file has contents. -/
theorem jobWorld_isSound
    (content : String) :
    (jobWorld content).tree.IsSound := by
  intro place serial hEntry
  rw [jobWorld_place] at hEntry
  split at hEntry
  · cases hEntry
  · split at hEntry
    · cases hEntry
      exact Nat.lt_succ_self 0
    · cases hEntry

/- A job of whole numbers. -/
def plainJob : String :=
  "joint:\n" ++
    "  plate_thickness: 4\n" ++
    "  retract_height: 5\n" ++
    "  stock_thickness: 4\n" ++
    "  cutter_diameter: 2\n" ++
    "  work_offset_x: 20\n" ++
    "  pass_length: 60\n"

/- The same job, with a file to log to. -/
def loggedJob : String :=
  plainJob ++
    "logging:\n" ++
    "  file: run.log\n"

/- The job with a log file names it. -/
theorem loggedJob_file
    {arguments : Arguments}
    (hConfig : arguments.config = some (.text "job.yaml"))
    {job : Job}
    (hJob : arguments.job Yaml.load (jobWorld loggedJob).tree = .ok job) :
    job.logging.file = some "run.log" := by
  have hRead :
      ∃ chars, loggedJob = String.ofList chars ∧ IsShortSource chars ∧
        (jobOfChars chars).toOption.map (fun job => job.logging.file) =
          some (some ("run.log" : Text)) := by
    apply Exists.intro
    constructor
    · unfold loggedJob plainJob
      repeat' apply append_eq_ofList
      all_goals rfl
    · decide +kernel
  rcases hRead with ⟨chars, hChars, hShort, hFile⟩
  rw [jobWorld_job hConfig hChars hShort] at hJob
  rw [hJob] at hFile
  exact Option.some.inj hFile

/- The arguments of a run that cuts the job into a file. -/
def fileArguments : Arguments where
  config := some (.text "job.yaml")
  output := some "out.ngc"

/-
  The same job is cut into a file, once without options about
  logging and once with all of them.
-/
theorem logged_job_same_product :
    (run Yaml.load ["--config", "job.yaml", "--output", "out.ngc"]
          (jobWorld loggedJob)).1 =
        (run Yaml.load
          ["--config", "job.yaml", "--output", "out.ngc", "--log-level",
            "DEBUG", "--log-json"]
          (jobWorld loggedJob)).1 ∧
      (run Yaml.load ["--config", "job.yaml", "--output", "out.ngc"]
          (jobWorld loggedJob)).2.output =
        (run Yaml.load
          ["--config", "job.yaml", "--output", "out.ngc", "--log-level",
            "DEBUG", "--log-json"]
          (jobWorld loggedJob)).2.output ∧
      (run Yaml.load ["--config", "job.yaml", "--output", "out.ngc"]
          (jobWorld loggedJob)).2.tree.contentAt?
            (Path.ofText "out.ngc") =
        (run Yaml.load
          ["--config", "job.yaml", "--output", "out.ngc", "--log-level",
            "DEBUG", "--log-json"]
          (jobWorld loggedJob)).2.tree.contentAt?
            (Path.ofText "out.ngc") := by
  have hRequest :
      Request.ofTexts ["--config", "job.yaml", "--output", "out.ngc"] =
        .ok (.run fileArguments) := rfl
  have hLogged :
      Request.ofTexts
          ["--config", "job.yaml", "--output", "out.ngc", "--log-level",
            "DEBUG", "--log-json"] =
        .ok
          (.run
            { fileArguments with
              logLevel := some "DEBUG"
              logJson := true }) := rfl
  have hElsewhere :
      LogsElsewhere Yaml.load fileArguments (jobWorld loggedJob).tree := by
    intro job name target hJob hFile hTarget place hMem
    rw [loggedJob_file rfl hJob] at hFile
    cases hFile
    cases hTarget
    have hPlaces :
        (jobWorld loggedJob).tree.writtenAt (Path.ofText "out.ngc") =
          [(["out.ngc"] : Location), ["out.ngc.tmp"]] := rfl
    rw [hPlaces] at hMem
    have hLog :
        (jobWorld loggedJob).tree.goal
            ((Path.ofText "run.log").flattened
              (jobWorld loggedJob).tree.home) =
          (["run.log"] : Location) := rfl
    rw [hLog]
    refine ⟨?_, fun serial hEntry => nomatch hEntry⟩
    rintro rfl
    exact absurd hMem (by decide)
  have hBoth :=
    log_options_keep_product Yaml.load
      ["--config", "job.yaml", "--output", "out.ngc"]
      ["--config", "job.yaml", "--output", "out.ngc", "--log-level",
        "DEBUG", "--log-json"]
      (jobWorld loggedJob) (by rw [hRequest, hLogged]; rfl) rfl
      (start_moment rfl) (jobWorld_isSound loggedJob)
  rcases hBoth.2.1 (fun _ _ _ _ _ _ _ => nofun) with
    ⟨text, hFirst, hSecond, -⟩
  exact ⟨hBoth.1, hFirst.trans hSecond.symm,
    hBoth.2.2 fileArguments "out.ngc" hRequest rfl hElsewhere⟩

/- The job of whole numbers is read, planned, and compiled. -/
theorem plainJob_making :
    ∃ job text,
      jobArguments.job Yaml.load (jobWorld plainJob).tree = .ok job ∧
        job.logging.file = none ∧
        jobArguments.making job = (.ok none, text) := by
  have hRead :
      ∃ chars, plainJob = String.ofList chars ∧ IsShortSource chars ∧
        (jobOfChars chars).toOption.map
            (fun job =>
              (job.logging.file, (jobArguments.making job).1.toOption)) =
          some (none, some none) := by
    apply Exists.intro
    constructor
    · unfold plainJob
      repeat' apply append_eq_ofList
      all_goals rfl
    · decide +kernel
  rcases hRead with ⟨chars, hChars, hShort, hMade⟩
  rcases Outcome.exists_of_toOption hMade with ⟨job, hLoad, hParts⟩
  rw [Prod.mk.injEq] at hParts
  rcases hParts with ⟨hFile, hMade⟩
  refine ⟨job, (jobArguments.making job).2, ?_, hFile, ?_⟩
  · exact (jobWorld_job rfl hChars hShort).trans hLoad
  · refine Prod.ext ?_ rfl
    cases hOutcome : (jobArguments.making job).1 with
    | error fault =>
        rw [hOutcome] at hMade
        cases hMade
    | ok product? =>
        rw [hOutcome] at hMade
        exact congrArg Except.ok (Option.some.inj hMade)

/- So a run that is given this job returns zero. -/
theorem plainJob_run :
    (run Yaml.load ["--config", "job.yaml"] (jobWorld plainJob)).1 = .ok 0 := by
  rcases plainJob_making with ⟨job, text, hJob, hFile, hMaking⟩
  have hOpened :
      Disk.openLog (jobSetup jobArguments job.logging).file
          (jobWorld plainJob).tree =
        (.ok none, (jobWorld plainJob).tree) := by
    unfold jobSetup
    rw [hFile]
    rfl
  rcases cutDado_finished (Request.isChosen jobArguments_request) rfl
      (start_moment (by rfl)) (.written ⟨hJob, none, hOpened⟩ hMaking) with
    ⟨after, hCourse, -⟩
  rw [run_eq jobArguments_request, hCourse]

/- The value of a job of whole numbers, with options for the log. -/
def jobValue
    (logging : Entries) : Value :=
  .dict
    [ (.text "joint",
        .dict
          [ (.text "plate_thickness", .int 4),
            (.text "retract_height", .int 5),
            (.text "stock_thickness", .int 4),
            (.text "cutter_diameter", .int 2),
            (.text "work_offset_x", .int 20),
            (.text "pass_length", .int 60) ]),
      (.text "logging", .dict logging) ]

/- A world in which the output has a place among the files. -/
def outletWorld : World where
  tree := (jobWorld "").tree.withFile ["dev", "stdout"] []
  outlet := some 1

/- A reader that finds the same value in every document. -/
def readerOf
    (data : Value) : YamlReader :=
  fun _ => .ok data

/-
  A level that is not one of the choices is refused, where the
  same command line without it succeeds. And if the job logs
  to the output under another name, the level decides what is
  written there.
-/
theorem log_options_that_matter :
    (run Yaml.load ["--config", "job.yaml"] (jobWorld plainJob)).1 =
        .ok 0 ∧
      (run Yaml.load ["--config", "job.yaml", "--log-level", "LOUD"]
        (jobWorld plainJob)).1 = .ok 2 ∧
      let reader :=
        readerOf (jobValue [(.text "file", .text "/dev/stdout")])
      (run reader ["--config", "job.yaml"] outletWorld).1 = .ok 0 ∧
        (run reader ["--config", "job.yaml", "--log-level", "ERROR"]
          outletWorld).1 = .ok 0 ∧
        (run reader ["--config", "job.yaml"] outletWorld).2.output ≠
          (run reader ["--config", "job.yaml", "--log-level", "ERROR"]
            outletWorld).2.output := by
  have hRefused :
      Request.ofTexts ["--config", "job.yaml", "--log-level", "LOUD"] =
        .error (.invalidChoice .logLevel "LOUD") := rfl
  refine ⟨plainJob_run, (run_refused hRefused _ _).1, ?_, ?_, ?_⟩
  · exact Outcome.eq_ok_of_toOption (by decide +kernel)
  · exact Outcome.eq_ok_of_toOption (by decide +kernel)
  · decide +kernel

end Command

end Joinery
