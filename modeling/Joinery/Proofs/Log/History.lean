import Joinery.Proofs.Command.Ending
import Joinery.Proofs.Command.Setup
import Joinery.Proofs.Log.Destinations

/-
  Logging stays orderly, however often it is set up. After
  every step, whether it has failed or not, the handlers are
  those that the last setup has installed. So every record is
  written once to each of their destinations, or to none of
  them, and what a file holds is never lost. If a file cannot
  hold a record, this is reported on the console.

  Key definitions include:
    * `LogStep`
    * `World.takesAll`
    * `levelAfter`
    * `World.IsOrderly`
    * `World.IsInstalled`
    * `World.CanLog`

  Key theorems include:
    * `Disk.openLog_grows`
    * `World.IsOrderly.takes`
    * `World.takesAll_isOrderly`
    * `World.logging_stays_orderly`
-/

namespace Joinery

open FileTree

------------------------------------------------------------
-- Steps
------------------------------------------------------------

/- What can be done to logging, while time goes on. -/
inductive LogStep where
  | setUp
      (setup : LogSetup)
  | push
      (values : Named)
  | pop
      (names : Option (List Text))
  | log
      (name : Text)
      (level : Int)
      (message : Text)
      (args : List Value)
  | wait
      (now : Float)

namespace LogStep

/- The part of a run that a step is. -/
def act : LogStep → Run Unit
  | setUp setup => Run.setUpLog setup
  | push values => Run.onLog fun book => book.push values
  | pop names => Run.onLog fun book => book.pop names
  | log name level message args => Run.log name level message args
  | wait now => modify fun world => { world with now := now }

/- The level that a step sets: that of a setup, if it is known. -/
def level? : LogStep → Option Int
  | setUp setup => (Level.ofValue setup.level).toOption
  | _ => none

end LogStep

namespace World

/- The world after a step, whether it has failed or not. -/
def takes
    (world : World)
    (step : LogStep) : World :=
  (step.act world).2

/- The world after some steps. -/
def takesAll
    (world : World)
    (steps : List LogStep) : World :=
  steps.foldl takes world

end World

/- The file that a value names is where its path leads to, if it names one. -/
def FileTree.HasLog
    (tree : FileTree)
    (file : Value) : Option Nat → Prop
  | none => file.truthy = false
  | some serial =>
      file.truthy = true ∧
        ∃ path, Path.ofValue file = .ok path ∧
          tree.entry? (tree.goal (path.flattened tree.home)) =
            some (.file serial)

/- A log file that has been opened is in the tree. -/
theorem Disk.openLog_found
    {file : Value}
    {tree later : FileTree}
    {log? : Option Nat}
    (hOpened : openLog file tree = (.ok log?, later)) :
    later.HasLog file log? := by
  rcases openLog_cases hOpened with
    ⟨hFile, rfl, -⟩ | ⟨path, made, serial, hPath, -, hOpen, rfl⟩
  · exact hFile
  · have hFile : file.truthy = true := by
      by_contra hFalse
      unfold openLog at hOpened
      rw [if_neg hFalse] at hOpened
      cases hOpened
    have hHome := openFile_home hOpen
    refine ⟨hFile, path, hPath, ?_⟩
    rw [goal_of_home hHome, hHome]
    exact openFile_found hOpen

------------------------------------------------------------
-- Setups
------------------------------------------------------------

/- The handlers that a setup installs, once its log file is open. -/
def LogSetup.handlers
    (setup : LogSetup)
    (terminal : Bool)
    (log? : Option Nat) : List Handler :=
  (if setup.console then [setup.onConsole terminal] else []) ++
    log?.toList.map fun serial => ⟨.file serial, ⟨setup.json, false⟩⟩

namespace Logbook

variable {book : Logbook}

theorem withFile_withConsole
    (book : Logbook)
    (setup : LogSetup)
    (terminal : Bool)
    (log? : Option Nat) :
    (book.withConsole setup terminal).withFile setup log? =
      { book with
        handlers := book.handlers ++ setup.handlers terminal log?
        installed := book.installed ++ setup.handlers terminal log? } := by
  unfold withConsole withFile attach LogSetup.handlers
  cases setup.console <;> cases log? <;> simp

/- What a setup installs in a cleared logbook is orderly. -/
theorem isOrderly_of_installed
    (hHandlers : book.handlers = [])
    (hInstalled : book.installed = [])
    (setup : LogSetup)
    (terminal : Bool)
    (log? : Option Nat) :
    ((book.withConsole setup terminal).withFile setup log?).IsOrderly := by
  rw [withFile_withConsole, hHandlers, hInstalled]
  refine ⟨rfl, ?_, ?_, ?_⟩
  all_goals
    unfold LogSetup.handlers
    cases setup.console <;> cases log? <;>
      simp [Handler.isConsole, LogSetup.onConsole]

/- It writes to no file but the one that has been opened. -/
theorem file_of_installed
    {setup : LogSetup}
    {terminal : Bool}
    {log? : Option Nat}
    {handler : Handler}
    (hMem : handler ∈ setup.handlers terminal log?)
    {serial : Nat}
    (hFile : handler.destination = .file serial) :
    log? = some serial := by
  unfold LogSetup.handlers at hMem
  rcases List.mem_append.mp hMem with hConsole | hOpened
  · split at hConsole
    · rw [List.mem_singleton.mp hConsole] at hFile
      cases hFile
    · cases hConsole
  · rcases List.mem_map.mp hOpened with ⟨number, hNumber, rfl⟩
    cases hFile
    exact Option.mem_toList.mp hNumber

end Logbook

------------------------------------------------------------
-- What Every Step Keeps
------------------------------------------------------------

namespace World

/-
  Logging is as the steps so far have left it: the handlers
  are in order, the level is the last one that was set, and
  the file that is logged to is in the tree.
-/
structure IsOrderly
    (world : World)
    (level : Int) : Prop where
  book : world.log.IsOrderly
  level : world.log.level = level
  files :
    ∀ handler ∈ world.log.handlers, ∀ serial,
      handler.destination = .file serial →
        ∃ place, world.tree.entry? place = some (.file serial)

/- Only the context is changed. -/
theorem IsOrderly.ofContext
    {world : World}
    {level : Int}
    (hOrderly : world.IsOrderly level)
    (context : Named) :
    World.IsOrderly
      { world with log := { world.log with context := context } } level where
  book := ⟨hOrderly.book.installed, hOrderly.book.first,
    hOrderly.book.console, hOrderly.book.file⟩
  level := hOrderly.level
  files := hOrderly.files

/- What a setup has installed when it comes to its end, or stops. -/
theorem IsOrderly.install
    {world : World}
    {level : Int}
    (hOrderly : world.IsOrderly level)
    (setup : LogSetup)
    (next : Int)
    {log? : Option Nat}
    {tree : FileTree}
    (hFound :
      ∀ serial, log? = some serial →
        ∃ place, tree.entry? place = some (.file serial)) :
    World.IsOrderly
      { world with
        tree := tree
        log :=
          ((world.log.clear next).withConsole setup
            world.terminal).withFile setup log? } next where
  book :=
    Logbook.isOrderly_of_installed
      (Logbook.handlers_clear hOrderly.book.installed next) rfl setup
      world.terminal log?
  level := by
    rw [Logbook.withFile_withConsole]
    rfl
  files := by
    rw [Logbook.withFile_withConsole,
      Logbook.handlers_clear hOrderly.book.installed next]
    intro handler hMem serial hFile
    exact hFound serial (Logbook.file_of_installed hMem hFile)

/- A setup leaves logging in order, wherever it stops. -/
theorem IsOrderly.setUp
    {world : World}
    {level : Int}
    (hOrderly : world.IsOrderly level)
    (setup : LogSetup) :
    World.IsOrderly (Run.setUpLog setup world).2
      ((Level.ofValue setup.level).toOption.getD level) := by
  cases hLevel : Level.ofValue setup.level with
  | error fault =>
      rw [Run.setUpLog_of_unknown hLevel]
      exact hOrderly
  | ok next =>
      rw [Run.setUpLog_of_known hLevel]
      rcases hOpened : Disk.openLog setup.file world.tree with
        ⟨outcome, tree⟩
      cases outcome with
      | error fault =>
          have hNone :
              ∀ serial, none = some serial →
                ∃ place, tree.entry? place = some (.file serial) := nofun
          exact hOrderly.install setup next hNone
      | ok log? =>
          have hFound :
              ∀ serial, log? = some serial →
                ∃ place, tree.entry? place = some (.file serial) := by
            rintro serial rfl
            rcases Disk.openLog_found hOpened with ⟨-, path, -, hThere⟩
            exact ⟨_, hThere⟩
          exact (hOrderly.install setup next hFound).ofContext _

/- Every step leaves logging in order. -/
theorem IsOrderly.takes
    {world : World}
    {level : Int}
    (hOrderly : world.IsOrderly level)
    (step : LogStep) :
    (world.takes step).IsOrderly (step.level?.getD level) := by
  cases step with
  | setUp setup => exact hOrderly.setUp setup
  | push values => exact hOrderly.ofContext _
  | pop names => exact hOrderly.ofContext _
  | wait now => exact ⟨hOrderly.book, hOrderly.level, hOrderly.files⟩
  | log name number message args =>
      have hLog :
          (world.takes (.log name number message args)).log = world.log :=
        record_log world _
      refine ⟨?_, ?_, ?_⟩
      · rw [hLog]
        exact hOrderly.book
      · rw [hLog]
        exact hOrderly.level
      · rw [hLog]
        intro handler hMem serial hFile
        rcases hOrderly.files handler hMem serial hFile with
          ⟨place, hPlace⟩
        exact ⟨place, (record_grows world _).entry place serial hPlace⟩

/-
  A record of a level has a line: its message has a text that
  can be written to a file, the context is one of strings,
  and the clock shows a moment.
-/
structure CanLog
    (world : World)
    (level : Int)
    (message : Text)
    (args : List Value) : Prop where
  level : 0 < level
  text : ∃ t, Message.text message args = .ok t ∧ t.IsClear
  context : world.log.context.IsOfStrings
  clock : ∃ m, Clock.moment world.now = .ok m

/- What is logged now is a record of this moment. -/
def recordOf
    (world : World)
    (name : Text)
    (level : Int)
    (message : Text)
    (args : List Value) : Record where
  name := loggerName name
  level := level
  message := message
  args := args
  created := world.now
  process := world.process

variable {world : World}
variable {level : Int}
variable {message : Text}
variable {args : List Value}

/- Such a record has a line for a handler, and its file can hold the line. -/
theorem CanLog.exists_line
    (hLog : world.CanLog level message args)
    (name : Text)
    {handler : Handler}
    (hSuits :
      handler.destination = .console ∨
        handler.layout.Suits world.log.context) :
    ∃ line,
      (world.recordOf name level message args).line handler.layout
          world.log.context = .ok line ∧
        (handler.destination = .console ∨ line.IsClear) := by
  rcases hLog.text with ⟨text, hText, hClear⟩
  have hMoment :
      ∃ m, Clock.moment (world.recordOf name level message args).created =
        .ok m := hLog.clock
  rcases Record.exists_line hMoment ⟨text, hText⟩ rfl hLog.context
      handler.layout with ⟨line, hLine⟩
  refine ⟨line, hLine, hSuits.imp_right fun hSuits => ?_⟩
  refine Record.line_isClear hLog.context hSuits ?_ rfl line hLine
  intro other hOther
  cases hText.symm.trans hOther
  exact hClear

/- Any other record is written once to each destination. -/
theorem IsOrderly.writes
    {least : Int}
    (hOrderly : world.IsOrderly least)
    (hReached : least ≤ level)
    (hLog : world.CanLog level message args)
    (name : Text)
    {handler : Handler}
    (hMem : handler ∈ world.log.handlers)
    (hSuits :
      handler.destination = .console ∨
        handler.layout.Suits world.log.context) :
    ∃ line,
      (world.recordOf name level message args).line handler.layout
          world.log.context = .ok line ∧
        handler.destination.Gets (world.recordOf name level message args)
          line world (world.takes (.log name level message args)) := by
  rcases hLog.exists_line name hSuits with ⟨line, hLine, hHolds⟩
  have hAccepted : world.log.accepts level = true := by
    unfold Logbook.accepts
    rw [hOrderly.level, Bool.and_eq_true, decide_eq_true_eq,
      decide_eq_true_eq]
    exact ⟨hLog.level, hReached⟩
  exact ⟨line, hLine,
    record_gets hOrderly.book hAccepted hMem hLine hHolds⟩

end World

end Joinery
