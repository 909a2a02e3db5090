import Joinery.Command.Cut
import Joinery.Proofs.Command.Arguments
import Joinery.Proofs.Command.Logging
import Joinery.Proofs.Config.Accepted
import Joinery.Proofs.FileTree.Places

/-
  Logging is set up twice in a run: before the job is read,
  and as the job asks for it. The first setup cannot fail.
  The second one fails exactly if the log file of the job
  cannot be opened.

  Key definitions include:
    * `Disk.openLog`
    * `Command.Arguments.IsSilent`
    * `Command.IsReady`

  Key theorems include:
    * `Run.setUpLog_of_unknown`
    * `Run.setUpLog_of_known`
    * `Command.setUpLog_first`
    * `Command.setUpLog_job`
-/

namespace Joinery

open World

------------------------------------------------------------
-- Opening A Log File
------------------------------------------------------------

/-
  Open the file to log to, if a value names one; its
  directory is made first.
-/
def Disk.openLog
    (file : Value) : Disk (Option Nat) := do
  if file.truthy then
    let path ← liftM (Path.ofValue file)
    makeDirectory path.parent
    let home := (← get).home
    let serial ← openFile (path.flattened home)
    return some serial
  else return none

/- A log file is opened in a directory that is there, or none is asked for. -/
theorem Disk.openLog_cases
    {file : Value}
    {tree later : FileTree}
    {log? : Option Nat}
    (hOpened : openLog file tree = (.ok log?, later)) :
    (file.truthy = false ∧ log? = none ∧ later = tree) ∨
      ∃ path made serial, Path.ofValue file = .ok path ∧
        makeDirectory path.parent tree = (.ok ⟨⟩, made) ∧
        openFile (path.flattened made.home) made = (.ok serial, later) ∧
        log? = some serial := by
  unfold openLog at hOpened
  cases hFile : file.truthy with
  | false =>
      rw [hFile, if_neg Bool.false_ne_true] at hOpened
      cases hOpened
      exact Or.inl ⟨rfl, rfl, rfl⟩
  | true =>
      rw [hFile, if_pos rfl] at hOpened
      cases hPath : Path.ofValue file with
      | error fault =>
          rw [hPath, Stateful.bind_of_error (Stateful.liftM_apply _ _)]
            at hOpened
          cases hOpened
      | ok path =>
          rw [hPath, Stateful.bind_of_ok (Stateful.liftM_apply _ _)]
            at hOpened
          rcases hMade : makeDirectory path.parent tree with
            ⟨outcome, made⟩
          cases outcome with
          | error fault =>
              rw [Stateful.bind_of_error hMade] at hOpened
              cases hOpened
          | ok _ =>
              rw [Stateful.bind_of_ok hMade,
                Stateful.bind_of_ok (Stateful.get_apply made)] at hOpened
              rcases hOpen : openFile (path.flattened made.home) made with
                ⟨outcome, last⟩
              cases outcome with
              | error fault =>
                  rw [Stateful.bind_of_error hOpen] at hOpened
                  cases hOpened
              | ok serial =>
                  rw [Stateful.bind_of_ok hOpen] at hOpened
                  cases hOpened
                  exact Or.inr
                    ⟨path, made, serial, rfl, hMade, hOpen, rfl⟩

/- The log file of a sound tree has contents when it is open. -/
theorem Disk.openLog_holds
    {file : Value}
    {tree later : FileTree}
    (hSound : tree.IsSound)
    {log? : Option Nat}
    (hOpened : openLog file tree = (.ok log?, later)) :
    Holds later log? := by
  rintro serial rfl
  rcases openLog_cases hOpened with
    ⟨-, hNone, -⟩ | ⟨path, made, number, -, hMade, hOpen, hSome⟩
  · cases hNone
  · cases hSome
    have hLater :=
      makeDirectory_maintains
        (fun _ place hSound => hSound.putDirectory place) path.parent
        tree hSound
    rw [hMade] at hLater
    rcases openFile_cases (path.flattened made.home) made with
      ⟨fault, hFault⟩ | ⟨place, -, ⟨_, hEntry, hSame⟩ | ⟨-, hNew⟩⟩
    · rw [hFault] at hOpen
      cases hOpen
    · rw [hSame] at hOpen
      cases hOpen
      exact hLater place _ hEntry
    · rw [hNew] at hOpen
      cases hOpen
      rw [FileTree.freshSerial_write]
      exact lt_max_of_lt_right (Nat.lt_succ_self _)

------------------------------------------------------------
-- Setting Up
------------------------------------------------------------

/- The handler for the console that a setup installs. -/
def LogSetup.onConsole
    (setup : LogSetup)
    (terminal : Bool) : Handler :=
  ⟨.console, ⟨setup.json, setup.colour && terminal⟩⟩

/- The state of logging with a handler for the console, if a setup has one. -/
def Logbook.withConsole
    (book : Logbook)
    (setup : LogSetup)
    (terminal : Bool) : Logbook :=
  if setup.console then book.attach (setup.onConsole terminal) else book

/- The state of logging with a handler for a file, if there is one. -/
def Logbook.withFile
    (book : Logbook)
    (setup : LogSetup) : Option Nat → Logbook
  | none => book
  | some serial => book.attach ⟨.file serial, ⟨setup.json, false⟩⟩

/- Handlers that a setup has installed are taken away by the next one. -/
theorem Logbook.handlers_clear
    {book : Logbook}
    (hInstalled : book.handlers = book.installed)
    (level : Int) :
    (book.clear level).handlers = [] := by
  unfold Logbook.clear
  dsimp only
  rw [List.filter_eq_nil_iff, hInstalled]
  intro handler hMem
  simp [hMem]

/- A setup installs a handler for the console before all others. -/
theorem LogSetup.hasConsole
    {setup : LogSetup}
    {terminal : Bool}
    {book : Logbook}
    (hNone : book.handlers = [])
    (serial? : Option Nat) :
    HasConsole
      ((book.attach (setup.onConsole terminal)).withFile setup serial?) := by
  unfold Logbook.withFile Logbook.attach
  rw [hNone]
  cases serial? with
  | none =>
      refine ⟨⟨setup.json, setup.colour && terminal⟩, [], rfl, ?_⟩
      intro handler hMem
      cases hMem
  | some serial =>
      refine
        ⟨⟨setup.json, setup.colour && terminal⟩,
          [⟨.file serial, ⟨setup.json, false⟩⟩], rfl, ?_⟩
      intro handler hMem
      rw [List.mem_singleton.mp hMem]
      intro hSame
      cases hSame

/- A setup logs to the console, and to its file, if it has opened one. -/
theorem LogSetup.writesTo
    {setup : LogSetup}
    {terminal : Bool}
    {book : Logbook}
    (hNone : book.handlers = [])
    (log? : Option Nat) :
    ∀ handler ∈
        ((book.attach (setup.onConsole terminal)).withFile setup
          log?).handlers,
      WritesTo log? handler := by
  intro handler hMem
  unfold Logbook.withFile Logbook.attach at hMem
  rw [hNone] at hMem
  cases log? with
  | none =>
      rw [List.mem_singleton.mp hMem]
      exact Or.inl rfl
  | some serial =>
      rcases List.mem_pair.mp hMem with rfl | rfl
      · exact Or.inl rfl
      · exact Or.inr ⟨serial, rfl, rfl⟩

namespace Run

/- The handler for a file is installed if the file can be opened. -/
theorem attachFile_apply
    {setup : LogSetup}
    (hFile : setup.file.truthy = true)
    (world : World) :
    attachFile setup world =
      match Disk.openLog setup.file world.tree with
      | (.ok serial?, tree) =>
          (.ok (),
            { world with
              tree := tree
              log := world.log.withFile setup serial? })
      | (.error fault, tree) =>
          (.error fault, { world with tree := tree }) := by
  unfold attachFile Disk.openLog
  rw [if_pos hFile]
  simp only [Stateful.bind_apply, Stateful.liftM_apply, Run.onDisk,
    Stateful.get_apply, Run.onLog, Stateful.modify_apply,
    Stateful.pure_apply]
  cases Path.ofValue setup.file with
  | error fault => rfl
  | ok path =>
      dsimp only
      rcases Disk.makeDirectory path.parent world.tree with
        ⟨outcome, tree⟩
      cases outcome with
      | error fault => rfl
      | ok _ =>
          dsimp only
          rcases Disk.openFile (path.flattened tree.home) tree with
            ⟨outcome, later⟩
          cases outcome with
          | error fault => rfl
          | ok serial => rfl

/- A setup whose level is unknown fails, and nothing is done. -/
theorem setUpLog_of_unknown
    {setup : LogSetup}
    {fault : Fault}
    (hLevel : Level.ofValue setup.level = .error fault)
    (world : World) :
    setUpLog setup world = (.error fault, world) := by
  unfold setUpLog
  rw [hLevel]
  exact Stateful.bind_of_error (Stateful.liftM_apply _ _) _

/-
  Once the level is known, a setup fails exactly if there is
  a log file that cannot be opened.
-/
theorem setUpLog_of_known
    {setup : LogSetup}
    {level : Int}
    (hLevel : Level.ofValue setup.level = .ok level)
    (world : World) :
    setUpLog setup world =
      let book :=
        (world.log.clear level).withConsole setup world.terminal
      match Disk.openLog setup.file world.tree with
      | (.ok serial?, tree) =>
          (.ok (),
            { world with
              tree := tree
              log := (book.withFile setup serial?).push setup.context })
      | (.error fault, tree) =>
          (.error fault, { world with tree := tree, log := book }) := by
  -- What follows the console is the same, whether there is one or not.
  have hRest :
      ∀ book : Logbook,
        (do
          if setup.file.truthy then attachFile setup
          onLog fun book => book.push setup.context)
            { world with log := book } =
          match Disk.openLog setup.file world.tree with
          | (.ok serial?, tree) =>
              (.ok (),
                { world with
                  tree := tree
                  log := (book.withFile setup serial?).push setup.context })
          | (.error fault, tree) =>
              (.error fault, { world with tree := tree, log := book }) := by
    intro book
    by_cases hFile : setup.file.truthy = true
    · rw [if_pos hFile, Stateful.bind_apply, attachFile_apply hFile]
      rcases Disk.openLog setup.file world.tree with ⟨outcome, tree⟩
      cases outcome with
      | error fault => rfl
      | ok serial? => rfl
    · rw [if_neg hFile]
      simp only [Disk.openLog, if_neg hFile]
      rfl
  unfold setUpLog Logbook.withConsole
  rw [hLevel, Stateful.bind_of_ok (Stateful.liftM_apply _ _), onLog,
    Stateful.bind_of_ok (Stateful.modify_apply _ _)]
  cases hConsole : setup.console with
  | true => exact hRest _
  | false => exact hRest _

/- The setups of a run have a handler for the console. -/
theorem setUpLog_apply
    {setup : LogSetup}
    {level : Int}
    (hLevel : Level.ofValue setup.level = .ok level)
    (hConsole : setup.console = true)
    (world : World) :
    setUpLog setup world =
      match Disk.openLog setup.file world.tree with
      | (.ok serial?, tree) =>
          (.ok (),
            { world with
              tree := tree
              log :=
                (((world.log.clear level).attach
                  (setup.onConsole world.terminal)).withFile setup
                    serial?).push setup.context })
      | (.error fault, tree) =>
          (.error fault,
            { world with
              tree := tree
              log :=
                (world.log.clear level).attach
                  (setup.onConsole world.terminal) }) := by
  rw [setUpLog_of_known hLevel, Logbook.withConsole, if_pos hConsole]

end Run

------------------------------------------------------------
-- Levels
------------------------------------------------------------

/- Records that tell of failures are accepted up to their level. -/
theorem Logbook.accepts_errors_iff
    (book : Logbook) :
    book.accepts errorLevel = true ↔ book.level ≤ errorLevel := by
  unfold Logbook.accepts
  rw [Bool.and_eq_true, decide_eq_true_eq, decide_eq_true_eq]
  exact and_iff_right (by decide)

namespace Command

/- A job that asks for such a level is told of no failure. -/
def isSilent
    (level : Text) : Bool :=
  level = "CRITICAL" ∨ level = "FATAL"

/- Only the silent levels are above that of failures. -/
theorem isSilent_iff
    {level : Text}
    {n : Int}
    (hNumber : Level.number? level = some n) :
    isSilent level = true ↔ ¬ n ≤ errorLevel := by
  refine Level.of_number?
    (fun level n => isSilent level = true ↔ ¬ n ≤ errorLevel) ?_
    hNumber
  decide

/- A level that can be chosen is known, and is not silent. -/
theorem level_of_choice
    {level : Text}
    (hChoice : isLevelChoice level = true) :
    (Level.number? level).isSome = true ∧ isSilent level = false := by
  have hChoices :
      ∀ choice ∈ levelChoices,
        (Level.number? (choice : Text)).isSome = true ∧
          isSilent (choice : Text) = false := by
    decide
  rcases List.any_eq_true.mp hChoice with ⟨choice, hMem, hSame⟩
  rw [of_decide_eq_true hSame]
  exact hChoices choice hMem

------------------------------------------------------------
-- The Setups Of A Run
------------------------------------------------------------

/- The level that a run is logged with, once its job is known. -/
def Arguments.levelFor
    (arguments : Arguments)
    (options : LogOptions) : Text :=
  arguments.logLevel.getD options.level

/- A run is silent if the job asks for that and nobody objects. -/
def Arguments.IsSilent
    (arguments : Arguments)
    (options : LogOptions) : Prop :=
  arguments.logLevel = none ∧ isSilent options.level = true

theorem isSilent_levelFor
    {arguments : Arguments}
    (hChosen : arguments.IsChosen)
    (options : LogOptions) :
    isSilent (arguments.levelFor options) = true ↔
      arguments.IsSilent options := by
  unfold Arguments.levelFor Arguments.IsSilent
  cases hLevel : arguments.logLevel with
  | none => simp
  | some level =>
      have hChoice := (level_of_choice (hChosen level hLevel)).2
      simp [hChoice]

theorem levelFor_known
    {arguments : Arguments}
    (hChosen : arguments.IsChosen)
    {options : LogOptions}
    (hKnown : options.IsKnown) :
    (Level.number? (arguments.levelFor options)).isSome = true := by
  unfold Arguments.levelFor
  cases hLevel : arguments.logLevel with
  | none => exact hKnown
  | some level => exact (level_of_choice (hChosen level hLevel)).1

/-
  Logging is set up as a part of a run leaves it: the level
  is known, and the next setup takes all handlers away.
-/
structure IsReady
    (world : World) : Prop where
  setUp : world.IsSetUp
  installed : world.log.installed = world.log.handlers

/- What a setup leaves alone. -/
structure OnlySetUp
    (world after : World) : Prop where
  output : after.output = world.output
  errors : after.errors = world.errors
  now : after.now = world.now
  outlet : after.outlet = world.outlet
  trace : after.trace = world.trace

variable {arguments : Arguments}
variable {world : World}

/-
  The first setup of a run cannot fail. It logs to the
  console only, and failures are told.
-/
theorem setUpLog_first
    (hChosen : arguments.IsChosen)
    (hFresh : world.log = { })
    (hClock : ∃ m, Clock.moment world.now = .ok m) :
    ∃ after,
      Run.setUpLog (firstSetup arguments) world = (.ok (), after) ∧
        IsReady after ∧ after.HasOnlyConsole ∧
        after.log.accepts errorLevel = true ∧
        OnlySetUp world after ∧ after.tree = world.tree := by
  have hKnown :
      (Level.number? (arguments.logLevel.getD "INFO")).isSome = true ∧
        isSilent (arguments.logLevel.getD "INFO") = false := by
    cases hLevel : arguments.logLevel with
    | none => decide
    | some level => exact level_of_choice (hChosen level hLevel)
  rcases Level.ofValue_of_number? hKnown.1 with ⟨level, hNumber, hLevel⟩
  have hHeard : level ≤ errorLevel := by
    by_contra hSilent
    have hTrue := (isSilent_iff hNumber).mpr hSilent
    rw [hKnown.2] at hTrue
    cases hTrue
  have hSetup :
      Level.ofValue (firstSetup arguments).level = .ok level := hLevel
  rw [Run.setUpLog_apply hSetup rfl, hFresh]
  refine ⟨_, rfl, ⟨⟨?_, ?_, hClock⟩, rfl⟩, ⟨_, rfl⟩, ?_,
    ⟨rfl, rfl, rfl, rfl, rfl⟩, rfl⟩
  · exact ⟨_, [], rfl, fun handler hMem => by cases hMem⟩
  · intro e hMem
    exact ⟨_, congrArg Prod.snd (List.mem_singleton.mp hMem)⟩
  · exact (Logbook.accepts_errors_iff _).mpr hHeard

/-
  The second setup fails exactly if the log file cannot be
  opened. After it, failures are told unless the run is
  silent.
-/
theorem setUpLog_job
    (hChosen : arguments.IsChosen)
    {options : LogOptions}
    (hKnown : options.IsKnown)
    (hReady : IsReady world) :
    match Disk.openLog (jobSetup arguments options).file world.tree with
    | (.error fault, tree) =>
        ∃ after,
          Run.setUpLog (jobSetup arguments options) world =
              (.error fault, after) ∧
            OnlySetUp world after ∧ after.tree = tree
    | (.ok log?, tree) =>
        ∃ after,
          Run.setUpLog (jobSetup arguments options) world =
              (.ok (), after) ∧
            after.IsSetUp ∧
            (after.log.accepts errorLevel = true ↔
              ¬ arguments.IsSilent options) ∧
            OnlySetUp world after ∧ after.tree = tree ∧
            ∀ handler ∈ after.log.handlers, WritesTo log? handler := by
  rcases Level.ofValue_of_number? (levelFor_known hChosen hKnown) with
    ⟨level, hNumber, hLevel⟩
  have hSetup :
      Level.ofValue (jobSetup arguments options).level = .ok level := hLevel
  rw [Run.setUpLog_apply hSetup rfl]
  rcases Disk.openLog (jobSetup arguments options).file world.tree with
    ⟨outcome, tree⟩
  cases outcome with
  | error fault => exact ⟨_, rfl, ⟨rfl, rfl, rfl, rfl, rfl⟩, rfl⟩
  | ok serial? =>
      -- All handlers are those of the first setup, and go.
      have hNone : (world.log.clear level).handlers = [] :=
        Logbook.handlers_clear hReady.installed.symm level
      refine ⟨_, rfl, ⟨?_, ?_, hReady.setUp.clock⟩, ?_,
        ⟨rfl, rfl, rfl, rfl, rfl⟩, rfl, LogSetup.writesTo hNone serial?⟩
      · exact LogSetup.hasConsole hNone serial?
      · cases serial? <;> exact hReady.setUp.context
      · rw [Logbook.accepts_errors_iff, ← isSilent_levelFor hChosen,
          isSilent_iff hNumber, not_not]
        cases serial? <;> exact Iff.rfl

end Command

end Joinery
