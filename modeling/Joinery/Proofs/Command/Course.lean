import Joinery.Proofs.Command.Parts

/-
  A run of the command goes through stages: it reads a job,
  opens the log file, makes the G-code, and saves it. A fault
  may stop it at each of them. At which one it stops, and what
  has been written by then, is a matter of the command line
  and of the files only. So are the files that it leaves, but
  for what is in the log file.

  Key definitions include:
    * `Command.Stage`
    * `Command.StopsAt`
    * `Command.Finishes`
    * `Command.Arguments.remains`
    * `Command.Went`
    * `Command.LogsAside`
    * `Command.Ends`

  Key theorems include:
    * `Command.finishes_or_stops`
    * `Command.cutDado_stopped`
    * `Command.cutDado_finished`
-/

namespace Joinery

open World

namespace Command

------------------------------------------------------------
-- Stages
------------------------------------------------------------

/- The stages of a run. -/
inductive Stage where
  | job
  | log
  | path
  | file
  deriving DecidableEq, Repr

/- The faults that a run is prepared for at a stage. -/
def Stage.expects : Stage → Family → Bool
  | .job => isJobFault
  | .log => fun _ => false
  | .path => isPathFault
  | .file => isWriteFault

/- How a run ends that is stopped at a stage. -/
def Stage.ending
    (stage : Stage)
    (fault : Fault) : Outcome Nat :=
  if stage.expects fault.family then .ok 1 else .error fault

/- Save a text to a file. -/
def saving
    (target text : Text) : Disk Unit :=
  Disk.writeTextAtomically (Path.ofText target) text Encoding.ofFiles

/- The job is read, and logging is set up as it asks for it. -/
structure Begins
    (reader : YamlReader)
    (arguments : Arguments)
    (tree : FileTree)
    (job : Job)
    (later : FileTree) : Prop where
  read : arguments.job reader tree = .ok job
  opened :
    ∃ serial?,
      Disk.openLog (jobSetup arguments job.logging).file tree =
        (.ok serial?, later)

/- A fault stops a run at a stage, when a text has been written. -/
inductive StopsAt
    (reader : YamlReader)
    (arguments : Arguments)
    (tree : FileTree) : Stage → Fault → Text → Prop where
  | job
      {fault : Fault}
      (hJob : arguments.job reader tree = .error fault) :
      StopsAt reader arguments tree .job fault { }
  | log
      {job : Job}
      {fault : Fault}
      {later : FileTree}
      (hJob : arguments.job reader tree = .ok job)
      (hLog :
        Disk.openLog (jobSetup arguments job.logging).file tree =
          (.error fault, later)) :
      StopsAt reader arguments tree .log fault { }
  | path
      {job : Job}
      {fault : Fault}
      {later : FileTree}
      {text : Text}
      (hBegins : Begins reader arguments tree job later)
      (hMaking : arguments.making job = (.error fault, text)) :
      StopsAt reader arguments tree .path fault text
  | file
      {job : Job}
      {fault : Fault}
      {later : FileTree}
      {text product target : Text}
      (hBegins : Begins reader arguments tree job later)
      (hMaking : arguments.making job = (.ok (some product), text))
      (hTarget : target? arguments = some target)
      (hSaving : (saving target product later).1 = .error fault) :
      StopsAt reader arguments tree .file fault text

/- A run goes through all stages, and has written a text. -/
inductive Finishes
    (reader : YamlReader)
    (arguments : Arguments)
    (tree : FileTree) : Text → Prop where
  | written
      {job : Job}
      {later : FileTree}
      {text : Text}
      (hBegins : Begins reader arguments tree job later)
      (hMaking : arguments.making job = (.ok none, text)) :
      Finishes reader arguments tree text
  | saved
      {job : Job}
      {later : FileTree}
      {text product target : Text}
      (hBegins : Begins reader arguments tree job later)
      (hMaking : arguments.making job = (.ok (some product), text))
      (hTarget : target? arguments = some target)
      (hSaving : (saving target product later).1 = .ok ⟨⟩) :
      Finishes reader arguments tree text

/- A text is made for a file only if a file is named. -/
theorem exists_target
    {arguments : Arguments}
    {job : Job}
    {product text : Text}
    (hMaking : arguments.making job = (.ok (some product), text)) :
    ∃ target, target? arguments = some target := by
  cases hTarget : target? arguments with
  | some target => exact ⟨target, rfl⟩
  | none =>
      unfold Arguments.making at hMaking
      rw [hTarget] at hMaking
      split at hMaking
      · cases hMaking
      · split at hMaking
        · split at hMaking <;> cases hMaking
        · rename_i plan _ _
          dsimp only at hMaking
          cases hCount : (listingOf job plan).count with
          | error fault =>
              rw [hCount] at hMaking
              cases hMaking
          | ok count =>
              rw [hCount] at hMaking
              cases hMaking

/- Every run finishes, or is stopped at a stage. -/
theorem finishes_or_stops
    (reader : YamlReader)
    (arguments : Arguments)
    (tree : FileTree) :
    (∃ text, Finishes reader arguments tree text) ∨
      ∃ stage fault text, StopsAt reader arguments tree stage fault text := by
  cases hJob : arguments.job reader tree with
  | error fault => exact Or.inr ⟨_, _, _, .job hJob⟩
  | ok job =>
      rcases hLog :
          Disk.openLog (jobSetup arguments job.logging).file tree with
        ⟨outcome, later⟩
      cases outcome with
      | error fault => exact Or.inr ⟨_, _, _, .log hJob hLog⟩
      | ok serial? =>
          have hBegins : Begins reader arguments tree job later :=
            ⟨hJob, serial?, hLog⟩
          rcases hMaking : arguments.making job with ⟨made, text⟩
          cases made with
          | error fault => exact Or.inr ⟨_, _, _, .path hBegins hMaking⟩
          | ok product? =>
              cases product? with
              | none => exact Or.inl ⟨_, .written hBegins hMaking⟩
              | some product =>
                  rcases exists_target hMaking with ⟨target, hTarget⟩
                  cases hSaving : (saving target product later).1 with
                  | error fault =>
                      exact Or.inr
                        ⟨_, _, _, .file hBegins hMaking hTarget hSaving⟩
                  | ok _ =>
                      exact Or.inl
                        ⟨_, .saved hBegins hMaking hTarget hSaving⟩

------------------------------------------------------------
-- Files After A Run
------------------------------------------------------------

/- The file that a run logs to, if there is one, and the files it leaves. -/
structure Remains where
  log? : Option Nat
  tree : FileTree

/-
  What remains of a run. The contents of the log file are not
  told: they are those from before the run.
-/
def Arguments.remains
    (arguments : Arguments)
    (reader : YamlReader)
    (tree : FileTree) : Remains :=
  match arguments.job reader tree with
  | .error _ => ⟨none, tree⟩
  | .ok job =>
      match Disk.openLog (jobSetup arguments job.logging).file tree with
      | (.error _, later) => ⟨none, later⟩
      | (.ok log?, later) =>
          match (arguments.making job).1, target? arguments with
          | .ok (some product), some target =>
              ⟨log?, (saving target product later).2⟩
          | _, _ => ⟨log?, later⟩

/- A run leaves the files that remain of it, but for what it logs. -/
def Leaves
    (reader : YamlReader)
    (arguments : Arguments)
    (tree last : FileTree) : Prop :=
  tree.IsSound →
    FileTree.SameBut (arguments.remains reader tree).log?
      (arguments.remains reader tree).tree last

section Remains

variable {reader : YamlReader}
variable {arguments : Arguments}
variable {tree later : FileTree}
variable {job : Job}
variable {log? : Option Nat}

theorem remains_of_noJob
    {fault : Fault}
    (hJob : arguments.job reader tree = .error fault) :
    arguments.remains reader tree = ⟨none, tree⟩ := by
  rw [Arguments.remains, hJob]

theorem remains_of_noLog
    (hJob : arguments.job reader tree = .ok job)
    {fault : Fault}
    (hLog :
      Disk.openLog (jobSetup arguments job.logging).file tree =
        (.error fault, later)) :
    arguments.remains reader tree = ⟨none, later⟩ := by
  rw [Arguments.remains, hJob]
  dsimp only
  rw [hLog]

theorem remains_of_unsaved
    (hJob : arguments.job reader tree = .ok job)
    (hLog :
      Disk.openLog (jobSetup arguments job.logging).file tree =
        (.ok log?, later))
    (hUnsaved :
      ∀ product, (arguments.making job).1 ≠ .ok (some product)) :
    arguments.remains reader tree = ⟨log?, later⟩ := by
  rw [Arguments.remains, hJob]
  dsimp only
  rw [hLog]
  dsimp only
  split
  · rename_i product _ hMade _
    exact absurd hMade (hUnsaved product)
  · rfl

theorem remains_of_saving
    (hJob : arguments.job reader tree = .ok job)
    (hLog :
      Disk.openLog (jobSetup arguments job.logging).file tree =
        (.ok log?, later))
    {product text target : Text}
    (hMaking : arguments.making job = (.ok (some product), text))
    (hTarget : target? arguments = some target) :
    arguments.remains reader tree =
      ⟨log?, (saving target product later).2⟩ := by
  rw [Arguments.remains, hJob]
  dsimp only
  rw [hLog, hMaking, hTarget]

end Remains

------------------------------------------------------------
-- From World To World
------------------------------------------------------------

/-
  A run has come from one world to another. It has written a
  text, and nothing else to the output if that is apart from
  what is logged to, and it has told of a failure or not.
-/
structure Went
    (apart : Prop)
    (world after : World)
    (text : Text)
    (told : Prop) : Prop where
  output : apart → after.output = world.output ++ text
  logs : ∃ levels, (errorLevel ∈ levels ↔ told) ∧ Logs world after levels
  outlet : after.outlet = world.outlet

section Going

variable {apart : Prop}
variable {world after last : World}
variable {text more : Text}
variable {told : Prop}

theorem Went.given
    (hWent : Went apart world after text told)
    {other : Prop}
    (hOther : other → apart) :
    Went other world after text told :=
  ⟨fun hApart => hWent.output (hOther hApart), hWent.logs, hWent.outlet⟩

theorem Went.trans
    (hFirst : Went apart world after text False)
    (hSecond : Went apart after last more told) :
    Went apart world last (text ++ more) told where
  output := by
    intro hApart
    rw [hSecond.output hApart, hFirst.output hApart, Text.append_assoc]
  logs := by
    rcases hFirst.logs with ⟨levels, hNone, hLogs⟩
    rcases hSecond.logs with ⟨others, hTold, hMore⟩
    refine ⟨levels ++ others, ?_, hLogs.trans hMore⟩
    rw [List.mem_append, hNone, hTold, false_or]
  outlet := hSecond.outlet.trans hFirst.outlet

theorem Went.thenSilent
    (hFirst : Went apart world after text False)
    (hSecond : Went apart after last { } told) :
    Went apart world last text told := by
  have hBoth := hFirst.trans hSecond
  rw [Text.append_empty] at hBoth
  exact hBoth

theorem Went.fromSilent
    (hFirst : Went apart world after { } False)
    (hSecond : Went apart after last text told) :
    Went apart world last text told := by
  have hBoth := hFirst.trans hSecond
  rw [Text.empty_append] at hBoth
  exact hBoth

theorem OnlySetUp.went
    (hOnly : OnlySetUp world after) :
    Went apart world after { } False where
  output := fun _ => by rw [hOnly.output, Text.append_empty]
  logs := by
    refine ⟨[], ?_, Logs.of_same hOnly.trace hOnly.errors⟩
    exact iff_of_false List.not_mem_nil id
  outlet := hOnly.outlet

theorem ran_went
    (hRan : Ran world after text) :
    Went world.IsApart world after text False where
  output := hRan.output
  logs := by
    rcases hRan.logs with ⟨levels, hNone, hLogs⟩
    exact ⟨levels, iff_of_false hNone id, hLogs⟩
  outlet := hRan.outlet

/- A failure is told exactly if its level is accepted. -/
theorem error_went
    (hSetUp : world.IsSetUp)
    {message : String}
    {args : List Value}
    (hText : ∃ t, Message.text message args = .ok t) :
    ∃ after, error message args world = (.ok ⟨⟩, after) ∧
      Went world.IsApart world after { }
        (world.log.accepts errorLevel = true) ∧
      KeepsFiles world after := by
  refine ⟨_, rfl, ⟨?_, ?_, (record_unmoved hSetUp _).outlet⟩,
    record_keepsFiles world _⟩
  · intro hApart
    rw [output_record hSetUp hApart, Text.append_empty]
  · cases hAccepts : world.log.accepts errorLevel with
    | true =>
        refine ⟨[errorLevel], ?_, ?_⟩
        · exact iff_of_true (List.mem_singleton_self _) rfl
        · exact record_logs hSetUp hAccepts rfl hText rfl
    | false =>
        refine ⟨[], ?_, ?_⟩
        · exact iff_of_false List.not_mem_nil Bool.false_ne_true
        · refine Logs.of_same (record_unmoved hSetUp _).trace ?_
          exact congrArg World.errors (record_of_unaccepted hAccepts)

end Going

------------------------------------------------------------
-- Attempts
------------------------------------------------------------

section Attempts

variable {α : Type}
variable {expected : Family → Bool}
variable {tell : Fault → Run Unit}
variable {body : Run α}
variable {world after : World}
variable {fault : Fault}

/- What is attempted and done is done. -/
theorem attempt_of_ok
    {a : α}
    (hBody : body world = (.ok a, after)) :
    attempt expected tell body world = (.ok (some a), after) := by
  unfold attempt
  rw [Stateful.tryCatch_apply]
  have hMapped : (some <$> body) world = (.ok (some a), after) := by
    show (body >>= fun a => pure (some a)) world = _
    rw [Stateful.bind_of_ok hBody]
    rfl
  rw [hMapped]

/- A fault leaves the attempt if it is not expected there. -/
theorem attempt_of_error
    (hBody : body world = (.error fault, after)) :
    attempt expected tell body world =
      (do
        if expected fault.family then
          tell fault
          return none
        else throw fault : Run (Option α)) after := by
  unfold attempt
  rw [Stateful.tryCatch_apply]
  have hMapped : (some <$> body) world = (.error fault, after) := by
    show (body >>= fun a => pure (some a)) world = _
    rw [Stateful.bind_of_error hBody]
  rw [hMapped]

theorem attempt_of_unexpected
    (hBody : body world = (.error fault, after))
    (hOther : expected fault.family = false) :
    attempt expected tell body world = (.error fault, after) := by
  rw [attempt_of_error hBody, hOther]
  rfl

/- An expected fault is told, and that is all. -/
theorem attempt_of_expected
    {last : World}
    (hBody : body world = (.error fault, after))
    (hExpected : expected fault.family = true)
    (hTell : tell fault after = (.ok ⟨⟩, last)) :
    attempt expected tell body world = (.ok none, last) := by
  rw [attempt_of_error hBody, hExpected]
  show (tell fault >>= fun _ => pure none) after = _
  rw [Stateful.bind_of_ok hTell]
  rfl

end Attempts

------------------------------------------------------------
-- Messages Of Failures
------------------------------------------------------------

/- The letters of a string. -/
def lettersOf
    (s : String) : List Letter :=
  s.toList.map Letter.char

/- A message with a place for each of some texts at its end. -/
theorem exists_message
    {message : String}
    (pieces : List (List Letter))
    (texts : List Text)
    (hMessage : (message : Text).letters = Message.pattern pieces [])
    (hLength : pieces.length = texts.length)
    (hPieces : ∀ plain ∈ pieces, .char '%' ∉ plain) :
    ∃ t, Message.text message (texts.map .text) = .ok t :=
  Message.exists_text hMessage hLength hPieces List.not_mem_nil

theorem exists_jobMessage
    (cause : Text) :
    ∃ t, Message.text "Config error: %s" [.text cause] = .ok t :=
  exists_message [lettersOf "Config error: "] [cause]
    (by simp [lettersOf, Message.pattern]) rfl (by simp [lettersOf])

theorem exists_pathMessage
    (cause : Text) :
    ∃ t,
      Message.text "Toolpath generation failed: %s" [.text cause] =
        .ok t :=
  exists_message [lettersOf "Toolpath generation failed: "] [cause]
    (by simp [lettersOf, Message.pattern]) rfl (by simp [lettersOf])

theorem exists_fileMessage
    (target cause : Text) :
    ∃ t,
      Message.text "Could not write %s: %s" [.text target, .text cause] =
        .ok t :=
  exists_message [lettersOf "Could not write ", lettersOf ": "]
    [target, cause] (by simp [lettersOf, Message.pattern]) rfl
    (by simp [lettersOf])

------------------------------------------------------------
-- Stopped Runs
------------------------------------------------------------

/-
  An attempt that fails ends the run. An expected fault is
  told, if records of failures are accepted; any other fault
  leaves the run.
-/
theorem stops_at_attempt
    {α : Type}
    {expected : Family → Bool}
    (message : String)
    (args : Fault → List Value)
    {body : Run α}
    {next : Option α → Run Nat}
    {apart : Prop}
    {world later : World}
    {fault : Fault}
    {text : Text}
    (hBody : body world = (.error fault, later))
    (hSetUp : later.IsSetUp)
    (hApart : apart → later.IsApart)
    (hWent : Went apart world later text False)
    (hMessage : ∃ t, Message.text message (args fault) = .ok t)
    (hNext : next none = pure 1) :
    ∃ after,
      (attempt expected (fun fault => error message (args fault)) body >>=
          next) world =
        (if expected fault.family then .ok 1 else .error fault, after) ∧
      Went apart world after text
        (expected fault.family = true ∧
          later.log.accepts errorLevel = true) ∧
      KeepsFiles later after := by
  by_cases hExpected : expected fault.family = true
  · rcases error_went hSetUp hMessage with ⟨after, hTell, hTold, hFiles⟩
    rw [Stateful.bind_of_ok (attempt_of_expected hBody hExpected hTell),
      hNext, if_pos hExpected]
    refine ⟨after, rfl, ?_, hFiles⟩
    simpa only [hExpected, true_and] using hWent.thenSilent (hTold.given hApart)
  · rw [Bool.not_eq_true] at hExpected
    rw [Stateful.bind_of_error (attempt_of_unexpected hBody hExpected),
      hExpected]
    refine ⟨_, rfl, ?_, KeepsFiles.refl _⟩
    simpa only [Bool.false_eq_true, false_and] using hWent

------------------------------------------------------------
-- The Course Of A Run
------------------------------------------------------------

/- What a run does once its G-code is saved, or could not be saved. -/
def afterSaving
    (target : Text)
    (written : Option Unit) : Run Nat := do
  if written.isNone then return 1
  info commandLogger "Wrote G-code to %s" [.text target]
  return 0

theorem save_eq
    (target text : Text) :
    save target text =
      (attempt isWriteFault
        (fun fault =>
          error "Could not write %s: %s"
            [.text target, .text fault.message])
        (Run.onDisk (saving target text)) >>= afterSaving target) := rfl

/- What a run does once its G-code is made, or could not be made. -/
def afterMaking
    (arguments : Arguments)
    (made? : Option (Option Text)) : Run Nat :=
  match made?, target? arguments with
  | none, _ => return 1
  | some (some text), some target => save target text
  | _, _ => return 0

/- G-code that has been written needs nothing more. -/
theorem afterMaking_written
    (arguments : Arguments) :
    afterMaking arguments (some none) = pure 0 := by
  unfold afterMaking
  cases target? arguments <;> rfl

/- G-code that is made for a file is saved there. -/
theorem afterMaking_product
    {arguments : Arguments}
    {target : Text}
    (hTarget : target? arguments = some target)
    (product : Text) :
    afterMaking arguments (some (some product)) =
      save target product := by
  unfold afterMaking
  rw [hTarget]

/- What a run does once logging is set up for its job. -/
def goOn
    (arguments : Arguments)
    (job : Job) : Run Nat := do
  let made? ← attempt isPathFault
    (fun fault =>
      error "Toolpath generation failed: %s" [.text fault.message])
    (product arguments job)
  afterMaking arguments made?

/- What a run does once it has read its job, or failed to. -/
def withJob
    (arguments : Arguments) : Option Job → Run Nat
  | none => return 1
  | some job => do
      Run.setUpLog (jobSetup arguments job.logging)
      goOn arguments job

/- A run that has a job and a job file that is accepted. -/
theorem job_isAcceptable
    {reader : YamlReader}
    {arguments : Arguments}
    {tree : FileTree}
    {job : Job}
    (hJob : arguments.job reader tree = .ok job) :
    job.IsAcceptable := by
  unfold Arguments.job at hJob
  rcases Outcome.bind_eq_ok_iff.mp hJob with ⟨path, _, hLoaded⟩
  rw [Disk.loadJob_result] at hLoaded
  rcases Outcome.bind_eq_ok_iff.mp hLoaded with ⟨_, _, hRead⟩
  rw [Disk.readJob_result] at hRead
  rcases Outcome.bind_eq_ok_iff.mp hRead with ⟨data, _, hJob⟩
  exact Job.isAcceptable hJob

section Runs

variable {reader : YamlReader}
variable {arguments : Arguments}
variable {world : World}

/- A run begins to log, and reads its job. -/
structure Started
    (reader : YamlReader)
    (arguments : Arguments)
    (world begun : World) : Prop where
  course :
    cutDado reader arguments world =
      (attempt isJobFault
        (fun fault => error "Config error: %s" [.text fault.message])
        (readJob reader arguments.config) >>= withJob arguments) begun
  ready : IsReady begun
  only : begun.HasOnlyConsole
  heard : begun.log.accepts errorLevel = true
  went : Went True world begun { } False
  tree : begun.tree = world.tree

theorem exists_started
    (hChosen : arguments.IsChosen)
    (hFresh : world.log = { })
    (hClock : ∃ m, Clock.moment world.now = .ok m) :
    ∃ begun, Started reader arguments world begun := by
  rcases setUpLog_first hChosen hFresh hClock with
    ⟨begun, hSetup, hReady, hOnly, hHeard, hQuiet, hTree⟩
  refine ⟨begun, ?_, hReady, hOnly, hHeard, hQuiet.went, hTree⟩
  unfold cutDado
  rw [Stateful.bind_of_ok hSetup]
  rfl

/- Once the job is read, logging is set up as it asks for it. -/
theorem exists_withJob
    (hChosen : arguments.IsChosen)
    (hFresh : world.log = { })
    (hClock : ∃ m, Clock.moment world.now = .ok m)
    {job : Job}
    (hJob : arguments.job reader world.tree = .ok job) :
    ∃ ready,
      cutDado reader arguments world = withJob arguments (some job) ready ∧
        IsReady ready ∧ Went True world ready { } False ∧
        ready.tree = world.tree := by
  rcases exists_started hChosen hFresh hClock with ⟨begun, hStarted⟩
  rcases readJob_reads reader arguments begun hStarted.ready.setUp
      hStarted.only with ⟨hResult, hRan⟩
  rw [hStarted.tree, hJob] at hResult
  have hRead :
      readJob reader arguments.config begun =
        (.ok job, (readJob reader arguments.config begun).2) :=
    Prod.ext hResult rfl
  refine ⟨(readJob reader arguments.config begun).2, ?_, ?_, ?_, ?_⟩
  · rw [hStarted.course, Stateful.bind_of_ok (attempt_of_ok hRead)]
  · refine ⟨hRan.isSetUp hStarted.ready.setUp, ?_⟩
    rw [hRan.log, hStarted.ready.installed]
  · exact hStarted.went.thenSilent
      ((ran_went hRan).given fun _ => hStarted.only.isApart)
  · rw [hRan.kept hStarted.only, hStarted.tree]

/- Records go to the file that a run has opened for them, if any. -/
def LogsAsAsked
    (arguments : Arguments)
    (job : Job)
    (tree : FileTree)
    (world : World) : Prop :=
  ∀ log? later,
    Disk.openLog (jobSetup arguments job.logging).file tree =
        (.ok log?, later) →
      ∀ handler ∈ world.log.handlers, WritesTo log? handler

/- The file that a run logs to, if it opens one, is not the output. -/
def LogsAside
    (reader : YamlReader)
    (arguments : Arguments)
    (world : World) : Prop :=
  ∀ job serial later,
    arguments.job reader world.tree = .ok job →
      Disk.openLog (jobSetup arguments job.logging).file world.tree =
          (.ok (some serial), later) →
        world.outlet ≠ some serial

/- A job that names no log file has none that is the output. -/
theorem logsAside_of_noFile
    (hNoLog :
      ∀ job, arguments.job reader world.tree = .ok job →
        job.logging.file = none) :
    LogsAside reader arguments world := by
  intro job serial later hJob hOpened
  rw [jobSetup, hNoLog job hJob] at hOpened
  cases hOpened

/- A run that has begun goes on with its job. -/
structure Underway
    (reader : YamlReader)
    (arguments : Arguments)
    (job : Job)
    (world started : World) : Prop where
  course : cutDado reader arguments world = goOn arguments job started
  setUp : started.IsSetUp
  heard :
    started.log.accepts errorLevel = true ↔
      ¬ arguments.IsSilent job.logging
  went : Went True world started { } False
  logs : LogsAsAsked arguments job world.tree started
  apart : LogsAside reader arguments world → started.IsApart

theorem exists_underway
    (hChosen : arguments.IsChosen)
    (hFresh : world.log = { })
    (hClock : ∃ m, Clock.moment world.now = .ok m)
    {job : Job}
    {later : FileTree}
    (hBegins : Begins reader arguments world.tree job later) :
    ∃ started, Underway reader arguments job world started ∧
      started.tree = later := by
  rcases exists_withJob hChosen hFresh hClock hBegins.read with
    ⟨ready, hCourse, hReady, hWent, hTree⟩
  have hSetup := setUpLog_job hChosen
    (job_isAcceptable hBegins.read).logging hReady
  rcases hBegins.opened with ⟨serial?, hOpened⟩
  rw [hTree, hOpened] at hSetup
  rcases hSetup with
    ⟨started, hSetup, hSetUp, hHeard, hQuiet, hLater, hWrites⟩
  have hBegun : Went True world started { } False :=
    hWent.thenSilent hQuiet.went
  refine ⟨started, ⟨?_, hSetUp, hHeard, hBegun, ?_, ?_⟩, hLater⟩
  · rw [hCourse]
    show (Run.setUpLog _ >>= fun _ => goOn arguments job) ready = _
    rw [Stateful.bind_of_ok hSetup]
  · intro log? tree hOther
    rw [hOpened] at hOther
    cases hOther
    exact hWrites
  · intro hAside handler hMem serial hFile
    rw [hBegun.outlet]
    rcases hWrites handler hMem with hConsole | ⟨number, rfl, hLogged⟩
    · rw [hFile] at hConsole
      cases hConsole
    · rw [hFile] at hLogged
      cases hLogged
      exact hAside job serial later hBegins.read hOpened

/- A run has made its G-code, and goes on to do something with it. -/
structure Made
    (reader : YamlReader)
    (arguments : Arguments)
    (job : Job)
    (later : FileTree)
    (product? : Option Text)
    (text : Text)
    (world made : World) : Prop where
  course :
    cutDado reader arguments world = afterMaking arguments (some product?) made
  setUp : made.IsSetUp
  heard :
    made.log.accepts errorLevel = true ↔ ¬ arguments.IsSilent job.logging
  went : Went (LogsAside reader arguments world) world made text False
  tree : FileTree.Alike later made.tree
  logs : LogsAsAsked arguments job world.tree made
  apart : LogsAside reader arguments world → made.IsApart
  files :
    ∀ log?,
      Disk.openLog (jobSetup arguments job.logging).file world.tree =
          (.ok log?, later) →
        Holds later log? → FileTree.SameBut log? later made.tree

theorem exists_made
    (hChosen : arguments.IsChosen)
    (hFresh : world.log = { })
    (hClock : ∃ m, Clock.moment world.now = .ok m)
    {job : Job}
    {later : FileTree}
    {product? : Option Text}
    {text : Text}
    (hBegins : Begins reader arguments world.tree job later)
    (hMaking : arguments.making job = (.ok product?, text)) :
    ∃ made, Made reader arguments job later product? text world made := by
  rcases exists_underway hChosen hFresh hClock hBegins with
    ⟨started, hUnder, hTree⟩
  rcases product_does arguments job started hUnder.setUp with
    ⟨hResult, hRan⟩
  rw [hMaking] at hResult hRan
  have hMade :
      product arguments job started =
        (.ok product?, (product arguments job started).2) :=
    Prod.ext hResult rfl
  refine ⟨(product arguments job started).2, ?_, ?_, ?_, ?_, ?_, ?_, ?_, ?_⟩
  · rw [hUnder.course, goOn, Stateful.bind_of_ok (attempt_of_ok hMade)]
  · exact hRan.isSetUp hUnder.setUp
  · rw [hRan.log]
    exact hUnder.heard
  · exact (hUnder.went.given fun _ => trivial).fromSilent
      ((ran_went hRan).given hUnder.apart)
  · rw [← hTree]
    exact hRan.tree
  · intro log? tree hOpened
    rw [hRan.log]
    exact hUnder.logs log? tree hOpened
  · exact fun hAside => hRan.isApart (hUnder.apart hAside)
  · intro log? hOpened hHolds
    rw [← hTree] at hHolds ⊢
    exact hRan.files log? (hUnder.logs log? later hOpened) hHolds

/- Whether a text can be saved does not depend on what is in files. -/
theorem saving_of_alike
    {tree other : FileTree}
    (hAlike : FileTree.Alike tree other)
    {target product : Text}
    {outcome : Outcome Unit}
    (hSaving : (saving target product tree).1 = outcome) :
    (saving target product other).1 = outcome := by
  have hLike :
      Disk.Like FileTree.Likeness.shape (fun _ _ => True)
        (saving target product) (saving target product) :=
    Disk.writeTextAtomically_like _ _ _
  have hSame := (hLike tree other hAlike).1
  unfold saving at hSaving hSame ⊢
  rw [hSaving] at hSame
  revert hSame
  cases (Disk.writeTextAtomically (Path.ofText target) product
      Encoding.ofFiles other).1 with
  | ok _ =>
      cases outcome with
      | ok _ => exact fun _ => rfl
      | error fault => exact False.elim
  | error fault =>
      cases outcome with
      | ok _ => exact False.elim
      | error cause => exact fun hFault => congrArg Except.error hFault.symm

/- What is in the log file does not matter for what is saved. -/
theorem saving_of_sameBut
    {log? : Option Nat}
    {tree other : FileTree}
    (hSame : FileTree.SameBut log? tree other)
    (target product : Text) :
    FileTree.SameBut log? (saving target product tree).2
      (saving target product other).2 := by
  have hLike :
      Disk.Like (.sameBut log?) (fun _ _ => True)
        (saving target product) (saving target product) :=
    Disk.writeTextAtomically_like _ _ _
  exact (hLike tree other hSame).2

/- A file that is in use stays in use while a text is saved. -/
theorem saving_holds
    {log? : Option Nat}
    {tree : FileTree}
    (hHolds : Holds tree log?)
    (target product : Text) :
    Holds (saving target product tree).2 log? := by
  intro serial hSome
  have hUsed :
      Disk.Maintains (fun tree => serial < tree.freshSerial)
        (saving target product) := by
    apply Disk.writeTextAtomically_maintains
    · exact fun _ _ hUsed => hUsed
    · intro temporary bytes _ tree hUsed
      rcases Disk.create_cases temporary bytes tree with
        hSame | ⟨number, hWritten⟩ | ⟨place, hMade⟩
      · rw [hSame]
        exact hUsed
      · rw [hWritten, FileTree.freshSerial_write]
        exact lt_max_of_lt_left hUsed
      · rw [hMade, FileTree.freshSerial_write, FileTree.freshSerial_write]
        exact lt_max_of_lt_left (lt_max_of_lt_left hUsed)
    · intro temporary _ tree hUsed
      rcases Disk.rename_cases temporary (Path.ofText target) tree with
        hSame | ⟨_, _, _, -, -, -, hMoved⟩
      · rw [hSame]
        exact hUsed
      · rw [hMoved]
        exact hUsed
    · exact fun _ _ hUsed => hUsed
  exact hUsed tree (hHolds serial hSome)

/- To change files is no reason to set logging up again. -/
theorem onDisk_went
    (act : Disk Unit)
    (apart : Prop)
    (hSetUp : world.IsSetUp) :
    (Run.onDisk act world).2.IsSetUp ∧
      Went apart world (Run.onDisk act world).2 { } False ∧
      (Run.onDisk act world).2.log = world.log := by
  refine ⟨⟨hSetUp.console, hSetUp.context, hSetUp.clock⟩, ⟨?_, ?_, rfl⟩,
    rfl⟩
  · exact fun _ => (Text.append_empty _).symm
  · exact ⟨[], iff_of_false List.not_mem_nil id, Logs.of_same rfl rfl⟩

/- A run is not heard if its job has been read and silences it. -/
def IsUnheard
    (reader : YamlReader)
    (arguments : Arguments)
    (tree : FileTree) : Prop :=
  ∃ job, arguments.job reader tree = .ok job ∧ arguments.IsSilent job.logging

theorem isUnheard_iff
    {tree : FileTree}
    {job : Job}
    (hJob : arguments.job reader tree = .ok job) :
    IsUnheard reader arguments tree ↔ arguments.IsSilent job.logging := by
  constructor
  · rintro ⟨other, hOther, hSilent⟩
    rw [hJob] at hOther
    cases hOther
    exact hSilent
  · intro hSilent
    exact ⟨job, hJob, hSilent⟩

/- What is logged after the G-code is saved gets into the log file only. -/
theorem leaves_of_saving
    {job : Job}
    {later : FileTree}
    {product text target : Text}
    {made last : World}
    (hBegins : Begins reader arguments world.tree job later)
    (hMaking : arguments.making job = (.ok (some product), text))
    (hTarget : target? arguments = some target)
    (hMade : Made reader arguments job later (some product) text world made)
    (hFiles :
      KeepsFiles (Run.onDisk (saving target product) made).2 last) :
    Leaves reader arguments world.tree last.tree := by
  intro hSound
  rcases hBegins.opened with ⟨log?, hOpened⟩
  have hHolds := Disk.openLog_holds hSound hOpened
  have hSame := hMade.files log? hOpened hHolds
  have hSaved := saving_of_sameBut hSame target product
  rw [remains_of_saving hBegins.read hOpened hMaking hTarget]
  refine hSaved.trans (hFiles log? (hMade.logs log? later hOpened) ?_)
  intro serial hSome
  show serial < (saving target product made.tree).2.freshSerial
  rw [← hSaved.fresh]
  exact saving_holds hHolds target product serial hSome

/- A run that saves nothing changes no file but the log file. -/
theorem leaves_of_unsaved
    {job : Job}
    {later last : FileTree}
    (hBegins : Begins reader arguments world.tree job later)
    {made : Outcome (Option Text)}
    {text : Text}
    (hMaking : arguments.making job = (made, text))
    (hUnsaved : ∀ product, made ≠ .ok (some product))
    (hFiles :
      ∀ log?,
        Disk.openLog (jobSetup arguments job.logging).file world.tree =
            (.ok log?, later) →
          Holds later log? → FileTree.SameBut log? later last) :
    Leaves reader arguments world.tree last := by
  intro hSound
  rcases hBegins.opened with ⟨log?, hOpened⟩
  have hOther :
      ∀ product, (arguments.making job).1 ≠ .ok (some product) := by
    rw [hMaking]
    exact hUnsaved
  rw [remains_of_unsaved hBegins.read hOpened hOther]
  exact hFiles log? hOpened (Disk.openLog_holds hSound hOpened)

/-
  A run ends with a result. It has written a text by then, and
  nothing else to the output if it does not log there; it has
  told of a failure or not, and leaves the files that remain.
-/
def Ends
    (reader : YamlReader)
    (arguments : Arguments)
    (world : World)
    (result : Outcome Nat)
    (text : Text)
    (told : Prop) : Prop :=
  ∃ after, cutDado reader arguments world = (result, after) ∧
    Went (LogsAside reader arguments world) world after text told ∧
    Leaves reader arguments world.tree after.tree

/- Nothing but the console is logged to while the job is read. -/
theorem ends_of_noJob
    (hChosen : arguments.IsChosen)
    (hFresh : world.log = { })
    (hClock : ∃ m, Clock.moment world.now = .ok m)
    {fault : Fault}
    (hJob : arguments.job reader world.tree = .error fault) :
    Ends reader arguments world (Stage.job.ending fault) { }
      (isJobFault fault.family = true ∧
        ¬ IsUnheard reader arguments world.tree) := by
  rcases exists_started hChosen hFresh hClock with ⟨begun, hStarted⟩
  rcases readJob_reads reader arguments begun hStarted.ready.setUp
      hStarted.only with ⟨hResult, hRan⟩
  rw [hStarted.tree, hJob] at hResult
  rcases stops_at_attempt "Config error: %s"
      (fun fault => [.text fault.message]) (Prod.ext hResult rfl)
      (hRan.isSetUp hStarted.ready.setUp)
      (fun _ => hRan.isApart hStarted.only.isApart)
      ((ran_went hRan).given fun _ => hStarted.only.isApart)
      (exists_jobMessage fault.message)
      (rfl : withJob arguments none = pure 1) with
    ⟨after, hCourse, hWent, hFiles⟩
  refine ⟨after, hStarted.course.trans hCourse, ?_, ?_⟩
  · have hHeard : ¬ IsUnheard reader arguments world.tree := by
      rintro ⟨job, hOther, _⟩
      rw [hJob] at hOther
      cases hOther
    rw [hRan.log, hStarted.heard] at hWent
    simpa only [hHeard, not_false_eq_true]
      using (hStarted.went.fromSilent hWent).given fun _ => trivial
  · intro _
    have hKept := hRan.files.trans hRan.log hFiles
    rw [remains_of_noJob hJob, ← hStarted.tree]
    refine hKept none ?_ (by rintro serial ⟨⟩)
    rcases hStarted.only with ⟨layout, hHandlers⟩
    intro handler hMem
    rw [hHandlers, List.mem_singleton] at hMem
    exact Or.inl (congrArg Handler.destination hMem)

/- A run is not prepared for a log file that cannot be opened. -/
theorem ends_of_noLog
    (hChosen : arguments.IsChosen)
    (hFresh : world.log = { })
    (hClock : ∃ m, Clock.moment world.now = .ok m)
    {job : Job}
    {fault : Fault}
    {later : FileTree}
    (hJob : arguments.job reader world.tree = .ok job)
    (hLog :
      Disk.openLog (jobSetup arguments job.logging).file world.tree =
        (.error fault, later)) :
    Ends reader arguments world (.error fault) { } False := by
  rcases exists_withJob hChosen hFresh hClock hJob with
    ⟨ready, hCourse, hReady, hWent, hTree⟩
  have hSetup := setUpLog_job hChosen
    (job_isAcceptable hJob).logging hReady
  rw [hTree, hLog] at hSetup
  rcases hSetup with ⟨after, hSetup, hQuiet, hLater⟩
  refine ⟨after, ?_,
    (hWent.thenSilent hQuiet.went).given fun _ => trivial, ?_⟩
  · rw [hCourse]
    show (Run.setUpLog _ >>= fun _ => goOn arguments job) ready = _
    rw [Stateful.bind_of_error hSetup]
  · intro _
    rw [remains_of_noLog hJob hLog, hLater]
    exact FileTree.SameBut.refl _ _

/- What is printed before the G-code fails to be made stays printed. -/
theorem ends_of_noPath
    (hChosen : arguments.IsChosen)
    (hFresh : world.log = { })
    (hClock : ∃ m, Clock.moment world.now = .ok m)
    {job : Job}
    {fault : Fault}
    {later : FileTree}
    {text : Text}
    (hBegins : Begins reader arguments world.tree job later)
    (hMaking : arguments.making job = (.error fault, text)) :
    Ends reader arguments world (Stage.path.ending fault) text
      (isPathFault fault.family = true ∧
        ¬ IsUnheard reader arguments world.tree) := by
  rcases exists_underway hChosen hFresh hClock hBegins with
    ⟨started, hUnder, hTree⟩
  rcases product_does arguments job started hUnder.setUp with
    ⟨hResult, hRan⟩
  rw [hMaking] at hResult hRan
  rcases stops_at_attempt "Toolpath generation failed: %s"
      (fun fault => [.text fault.message]) (Prod.ext hResult rfl)
      (hRan.isSetUp hUnder.setUp)
      (fun hAside => hRan.isApart (hUnder.apart hAside))
      ((ran_went hRan).given hUnder.apart)
      (exists_pathMessage fault.message)
      (rfl : afterMaking arguments none = pure 1) with
    ⟨after, hCourse, hWent, hFiles⟩
  refine ⟨after, hUnder.course.trans hCourse, ?_, ?_⟩
  · rw [hRan.log, hUnder.heard, ← isUnheard_iff hBegins.read] at hWent
    exact (hUnder.went.given fun _ => trivial).fromSilent hWent
  · refine leaves_of_unsaved hBegins hMaking (by rintro product ⟨⟩) ?_
    intro log? hOpened hHolds
    have hKept := hRan.files.trans hRan.log hFiles
    rw [← hTree] at hHolds ⊢
    exact hKept log? (hUnder.logs log? later hOpened) hHolds

/- A text that cannot be saved has been made before. -/
theorem ends_of_noFile
    (hChosen : arguments.IsChosen)
    (hFresh : world.log = { })
    (hClock : ∃ m, Clock.moment world.now = .ok m)
    {job : Job}
    {fault : Fault}
    {later : FileTree}
    {text product target : Text}
    (hBegins : Begins reader arguments world.tree job later)
    (hMaking : arguments.making job = (.ok (some product), text))
    (hTarget : target? arguments = some target)
    (hSaving : (saving target product later).1 = .error fault) :
    Ends reader arguments world (Stage.file.ending fault) text
      (isWriteFault fault.family = true ∧
        ¬ IsUnheard reader arguments world.tree) := by
  rcases exists_made hChosen hFresh hClock hBegins hMaking with
    ⟨made, hMade⟩
  have hResult := saving_of_alike hMade.tree hSaving
  rcases onDisk_went (saving target product)
      (LogsAside reader arguments world) hMade.setUp with
    ⟨hSetUp, hWent, hLog⟩
  have hBody :
      Run.onDisk (saving target product) made =
        (.error fault, (Run.onDisk (saving target product) made).2) :=
    Prod.ext hResult rfl
  rcases stops_at_attempt "Could not write %s: %s"
      (fun fault => [.text target, .text fault.message])
      hBody hSetUp (fun hAside => (hMade.apart hAside).ofSame hLog rfl)
      hWent
      (exists_fileMessage target fault.message)
      (rfl : afterSaving target none = pure 1) with
    ⟨after, hCourse, hTold, hFiles⟩
  refine ⟨after, ?_, ?_, ?_⟩
  · rw [hMade.course, afterMaking_product hTarget]
    exact hCourse
  · rw [hLog, hMade.heard, ← isUnheard_iff hBegins.read] at hTold
    exact hMade.went.thenSilent hTold
  · exact leaves_of_saving hBegins hMaking hTarget hMade hFiles

/-
  A run that a fault stops returns one if it is prepared for
  the fault, and fails with the fault if it is not. In the
  first case the failure is told, if it can be heard.
-/
theorem cutDado_stopped
    (hChosen : arguments.IsChosen)
    (hFresh : world.log = { })
    (hClock : ∃ m, Clock.moment world.now = .ok m)
    {stage : Stage}
    {fault : Fault}
    {text : Text}
    (hStops : StopsAt reader arguments world.tree stage fault text) :
    Ends reader arguments world (stage.ending fault) text
      (stage.expects fault.family = true ∧
        ¬ IsUnheard reader arguments world.tree) := by
  cases hStops with
  | job hJob => exact ends_of_noJob hChosen hFresh hClock hJob
  | log hJob hLog =>
      simpa only [Stage.ending, Stage.expects, Bool.false_eq_true,
        false_and, if_false]
        using ends_of_noLog hChosen hFresh hClock hJob hLog
  | path hBegins hMaking =>
      exact ends_of_noPath hChosen hFresh hClock hBegins hMaking
  | file hBegins hMaking hTarget hSaving =>
      exact ends_of_noFile hChosen hFresh hClock hBegins hMaking hTarget
        hSaving

/- A run that finishes returns zero, and tells of no failure. -/
theorem cutDado_finished
    (hChosen : arguments.IsChosen)
    (hFresh : world.log = { })
    (hClock : ∃ m, Clock.moment world.now = .ok m)
    {text : Text}
    (hFinishes : Finishes reader arguments world.tree text) :
    Ends reader arguments world (.ok 0) text False := by
  cases hFinishes with
  | written hBegins hMaking =>
      rcases exists_made hChosen hFresh hClock hBegins hMaking with
        ⟨made, hMade⟩
      refine ⟨made, ?_, hMade.went, ?_⟩
      · rw [hMade.course, afterMaking_written]
        rfl
      · exact leaves_of_unsaved hBegins hMaking (by rintro product ⟨⟩)
          hMade.files
  | saved hBegins hMaking hTarget hSaving =>
      rename_i job later product target
      rcases exists_made hChosen hFresh hClock hBegins hMaking with
        ⟨made, hMade⟩
      have hResult := saving_of_alike hMade.tree hSaving
      rcases onDisk_went (saving target product)
          (LogsAside reader arguments world) hMade.setUp with
        ⟨hSetUp, hWent, hLog⟩
      rcases info_does commandLogger "Wrote G-code to %s" [.text target]
          (Run.onDisk (saving target product) made).2 hSetUp with
        ⟨hDone, hRan⟩
      have hLogged := (ran_went hRan).given
        fun hAside => (hMade.apart hAside).ofSame hLog rfl
      refine ⟨_, ?_, (hMade.went.thenSilent hWent).thenSilent hLogged,
        leaves_of_saving hBegins hMaking hTarget hMade hRan.files⟩
      have hBody :
          Run.onDisk (saving target product) made =
            (.ok ⟨⟩, (Run.onDisk (saving target product) made).2) :=
        Prod.ext hResult rfl
      rw [hMade.course, afterMaking_product hTarget, save_eq,
        Stateful.bind_of_ok (attempt_of_ok hBody)]
      show (info _ _ _ >>= fun _ => pure 0) _ = _
      rw [Stateful.bind_of_ok (Prod.ext hDone rfl)]
      rfl

end Runs

end Command

end Joinery
