import Joinery.Log.Setup
import Joinery.Proofs.FileTree.Likeness
import Joinery.Proofs.Log.Lines
import Joinery.Proofs.Text.Letters

/-
  To log a record never fails. It adds a line to the error
  stream, or a report that there is none, and to the contents
  of files, and leaves alone which files there are and the
  state of logging. What is written to the output is left
  alone, too, if the output is not one of those files.

  Key definitions include:
    * `LinesOf`
    * `Handler.fault?`
    * `World.Logs`
    * `World.IsApart`
    * `World.Ran`
    * `World.Handled`
    * `World.IsSetUp`
    * `Run.Does`

  Key theorems include:
    * `World.handle_handled`
    * `World.record_ran`
    * `World.record_logs`
    * `Run.Does.bind`
    * `Run.log_does`
-/

namespace Joinery

open FileTree

------------------------------------------------------------
-- Lines
------------------------------------------------------------

/-
  A text is made of the lines of records of these levels, in
  order, and of reports with such traces.
-/
inductive LinesOf
    (trace : Option (Record → Fault → Text)) :
    List Int → Text → Prop where
  | none : LinesOf trace [] { }
  | more
      {record : Record}
      {layout : Layout}
      {context : Named}
      {line text : Text}
      {levels : List Int}
      (hLine : record.line layout context = .ok line)
      (hRest : LinesOf trace levels text) :
      LinesOf trace (record.level :: levels) (line ++ "\n" ++ text)
  | report
      {record : Record}
      {fault : Fault}
      {told : Record → Fault → Text}
      {text : Text}
      {levels : List Int}
      (hTrace : trace = some told)
      (hRest : LinesOf trace levels text) :
      LinesOf trace levels (record.report (told record fault) ++ text)

theorem LinesOf.append
    {trace : Option (Record → Fault → Text)}
    {levels others : List Int}
    {text more : Text}
    (hFirst : LinesOf trace levels text)
    (hSecond : LinesOf trace others more) :
    LinesOf trace (levels ++ others) (text ++ more) := by
  induction hFirst with
  | none =>
      rw [Text.empty_append]
      exact hSecond
  | more hLine hRest ih =>
      rw [Text.append_assoc]
      exact LinesOf.more hLine ih
  | report hTrace hRest ih =>
      rw [Text.append_assoc]
      exact LinesOf.report hTrace ih

------------------------------------------------------------
-- Faults Of Handlers
------------------------------------------------------------

/- Why a handler cannot write a record, if it cannot. -/
def Handler.fault?
    (record : Record)
    (context : Named)
    (handler : Handler) : Option Fault :=
  match record.line handler.layout context with
  | .error fault => some fault
  | .ok line =>
      match handler.destination with
      | .console => none
      | .file _ =>
          match Encoding.encode? Encoding.ofFiles (line ++ "\n") with
          | none => some (.notEncodable Encoding.ofFiles)
          | some _ => none

/- A file that can hold the line of a record gets it. -/
theorem Handler.fault?_of_bytes
    {record : Record}
    {context : Named}
    {handler : Handler}
    {serial : Nat}
    {line : Text}
    {bytes : List UInt8}
    (hFile : handler.destination = .file serial)
    (hLine : record.line handler.layout context = .ok line)
    (hBytes :
      Encoding.encode? Encoding.ofFiles (line ++ "\n") = some bytes) :
    handler.fault? record context = none := by
  rw [Handler.fault?, hLine, hFile]
  simp only [hBytes]

namespace World

/- The error stream has got lines of records of these levels. -/
structure Logs
    (world after : World)
    (levels : List Int) : Prop where
  trace : after.trace = world.trace
  errors :
    ∃ text, LinesOf world.trace levels text ∧
      after.errors = world.errors ++ text

theorem Logs.of_same
    {world after : World}
    (hTrace : after.trace = world.trace)
    (hSame : after.errors = world.errors) :
    Logs world after [] := by
  refine ⟨hTrace, { }, LinesOf.none, ?_⟩
  rw [hSame, Text.append_empty]

theorem Logs.refl
    (world : World) :
    Logs world world [] :=
  Logs.of_same rfl rfl

theorem Logs.trans
    {world after last : World}
    {levels others : List Int}
    (hFirst : Logs world after levels)
    (hSecond : Logs after last others) :
    Logs world last (levels ++ others) := by
  rcases hFirst with ⟨hTrace, text, hText, hAfter⟩
  rcases hSecond with ⟨hLater, more, hMore, hLast⟩
  rw [hTrace] at hLater hMore
  refine ⟨hLater, text ++ more, hText.append hMore, ?_⟩
  rw [hLast, hAfter, Text.append_assoc]

/- A report is no line of a record. -/
theorem report_logs
    (record : Record)
    (fault : Fault)
    (world : World) :
    Logs world (world.report record fault) [] := by
  unfold report
  split
  · exact Logs.refl world
  · rename_i told hTrace
    refine ⟨rfl, record.report (told record fault) ++ { },
      LinesOf.report hTrace LinesOf.none, ?_⟩
    rw [Text.append_empty]
    rfl

------------------------------------------------------------
-- What Logging Leaves Alone
------------------------------------------------------------

/- The level of the records that tell of a failed run. -/
def errorLevel : Int := 40

/- No handler writes to the output. -/
def IsApart
    (world : World) : Prop :=
  ∀ handler ∈ world.log.handlers, ∀ serial,
    handler.destination = .file serial → world.outlet ≠ some serial

theorem IsApart.ofSame
    {world after : World}
    (hApart : world.IsApart)
    (hLog : after.log = world.log)
    (hOutlet : after.outlet = world.outlet) :
    after.IsApart := by
  unfold IsApart
  rw [hLog, hOutlet]
  exact hApart

/- Only the console is logged to. -/
def HasOnlyConsole
    (world : World) : Prop :=
  ∃ layout, world.log.handlers = [⟨.console, layout⟩]

/- A handler writes to the console, or to one file, if there is one. -/
def WritesTo
    (log? : Option Nat)
    (handler : Handler) : Prop :=
  handler.destination = .console ∨
    ∃ serial, log? = some serial ∧ handler.destination = .file serial

/- The file that records go to, if there is one, has contents. -/
def Holds
    (tree : FileTree)
    (log? : Option Nat) : Prop :=
  ∀ serial, log? = some serial → serial < tree.freshSerial

/- From one world to another, at most what is logged gets into files. -/
def KeepsFiles
    (world after : World) : Prop :=
  ∀ log?, (∀ handler ∈ world.log.handlers, WritesTo log? handler) →
    Holds world.tree log? → SameBut log? world.tree after.tree

theorem KeepsFiles.refl
    (world : World) :
    KeepsFiles world world :=
  fun log? _ _ => SameBut.refl log? world.tree

theorem KeepsFiles.trans
    {world after last : World}
    (hFirst : KeepsFiles world after)
    (hLog : after.log = world.log)
    (hSecond : KeepsFiles after last) :
    KeepsFiles world last := by
  intro log? hWrites hHolds
  have hAfter := hFirst log? hWrites hHolds
  refine hAfter.trans (hSecond log? ?_ ?_)
  · rw [hLog]
    exact hWrites
  · intro serial hSome
    rw [← hAfter.fresh]
    exact hHolds serial hSome

theorem HasOnlyConsole.isApart
    {world : World}
    (hOnly : world.HasOnlyConsole) :
    world.IsApart := by
  rcases hOnly with ⟨layout, hHandlers⟩
  intro handler hMem serial hFile
  rw [hHandlers, List.mem_singleton] at hMem
  rw [hMem] at hFile
  cases hFile

/-
  A part of a run, without an error record, leads from the
  first world to the second. It has written a text, and
  nothing else, unless a handler writes to the output.
-/
structure Ran
    (world after : World)
    (text : Text) : Prop where
  output : world.IsApart → after.output = world.output ++ text
  logs : ∃ levels, errorLevel ∉ levels ∧ Logs world after levels
  tree : Alike world.tree after.tree
  kept : world.HasOnlyConsole → after.tree = world.tree
  files : KeepsFiles world after
  log : after.log = world.log
  now : after.now = world.now
  outlet : after.outlet = world.outlet

namespace Ran

theorem refl
    (world : World) :
    Ran world world { } where
  output := fun _ => (Text.append_empty _).symm
  logs := ⟨[], List.not_mem_nil, Logs.refl world⟩
  tree := Alike.refl _
  kept := fun _ => rfl
  files := KeepsFiles.refl world
  log := rfl
  now := rfl
  outlet := rfl

theorem hasOnlyConsole
    {world after : World}
    {text : Text}
    (hRan : Ran world after text)
    (hOnly : world.HasOnlyConsole) :
    after.HasOnlyConsole := by
  rcases hOnly with ⟨layout, hHandlers⟩
  exact ⟨layout, by rw [hRan.log, hHandlers]⟩

theorem isApart
    {world after : World}
    {text : Text}
    (hRan : Ran world after text)
    (hApart : world.IsApart) :
    after.IsApart :=
  hApart.ofSame hRan.log hRan.outlet

theorem trans
    {world after last : World}
    {text more : Text}
    (hFirst : Ran world after text)
    (hSecond : Ran after last more) :
    Ran world last (text ++ more) where
  output := by
    intro hApart
    rw [hSecond.output (hFirst.isApart hApart), hFirst.output hApart,
      Text.append_assoc]
  logs := by
    rcases hFirst.logs with ⟨levels, hNone, hLogs⟩
    rcases hSecond.logs with ⟨others, hNoOther, hMore⟩
    refine ⟨levels ++ others, ?_, hLogs.trans hMore⟩
    rw [List.mem_append]
    rintro (hMem | hMem)
    · exact hNone hMem
    · exact hNoOther hMem
  tree := hFirst.tree.trans hSecond.tree
  kept := by
    intro hOnly
    rw [hSecond.kept (hFirst.hasOnlyConsole hOnly), hFirst.kept hOnly]
  files := hFirst.files.trans hFirst.log hSecond.files
  log := hSecond.log.trans hFirst.log
  now := hSecond.now.trans hFirst.now
  outlet := hSecond.outlet.trans hFirst.outlet

end Ran

------------------------------------------------------------
-- Handlers
------------------------------------------------------------

/- What a handler leaves alone. -/
structure Unmoved
    (world after : World) : Prop where
  tree : Alike world.tree after.tree
  log : after.log = world.log
  now : after.now = world.now
  outlet : after.outlet = world.outlet
  trace : after.trace = world.trace

theorem Unmoved.refl
    (world : World) :
    Unmoved world world :=
  ⟨Alike.refl _, rfl, rfl, rfl, rfl⟩

theorem Unmoved.trans
    {world after last : World}
    (hFirst : Unmoved world after)
    (hSecond : Unmoved after last) :
    Unmoved world last where
  tree := hFirst.tree.trans hSecond.tree
  log := hSecond.log.trans hFirst.log
  now := hSecond.now.trans hFirst.now
  outlet := hSecond.outlet.trans hFirst.outlet
  trace := hSecond.trace.trans hFirst.trace

/- A report changes the error stream only. -/
theorem report_eq
    (record : Record)
    (fault : Fault)
    (world : World) :
    world.report record fault =
      { world with errors := (world.report record fault).errors } := by
  unfold report
  split <;> rfl

theorem report_unmoved
    (record : Record)
    (fault : Fault)
    (world : World) :
    Unmoved world (world.report record fault) := by
  rw [report_eq]
  exact ⟨Alike.refl _, rfl, rfl, rfl, rfl⟩

/- Without handlers, a record changes the error stream only. -/
theorem lastResort_eq
    (world : World)
    (record : Record) :
    world.lastResort record =
      { world with errors := (world.lastResort record).errors } := by
  unfold lastResort
  split
  · rfl
  · split
    · rw [report_eq]
    · rfl

/-
  What a handler does with a record: one case for each thing
  that it can do.
-/
inductive Handled
    (record : Record)
    (handler : Handler)
    (world : World) : World → Prop where
  | reports
      {fault : Fault}
      (hFault : handler.fault? record world.log.context = some fault) :
      Handled record handler world (world.report record fault)
  | complains
      {line : Text}
      (hConsole : handler.destination = .console)
      (hLine : record.line handler.layout world.log.context = .ok line) :
      Handled record handler world (world.complain (line ++ "\n"))
  | prints
      {serial : Nat}
      {line : Text}
      {bytes : List UInt8}
      (hFile : handler.destination = .file serial)
      (hLine : record.line handler.layout world.log.context = .ok line)
      (hBytes :
        Encoding.encode? Encoding.ofFiles (line ++ "\n") = some bytes)
      (hOutlet : world.outlet = some serial) :
      Handled record handler world (world.print (line ++ "\n"))
  | appends
      {serial : Nat}
      {line : Text}
      {bytes : List UInt8}
      (hFile : handler.destination = .file serial)
      (hLine : record.line handler.layout world.log.context = .ok line)
      (hBytes :
        Encoding.encode? Encoding.ofFiles (line ++ "\n") = some bytes)
      (hOutlet : world.outlet ≠ some serial) :
      Handled record handler world
        { world with tree := world.tree.append serial bytes }

theorem handle_handled
    (record : Record)
    (handler : Handler)
    (world : World) :
    Handled record handler world (world.handle record handler) := by
  unfold handle
  cases hLine : record.line handler.layout world.log.context with
  | error fault =>
      exact .reports (by rw [Handler.fault?, hLine])
  | ok line =>
      cases hDestination : handler.destination with
      | console => exact .complains hDestination hLine
      | file serial =>
          dsimp only
          cases hBytes :
              Encoding.encode? Encoding.ofFiles (line ++ "\n") with
          | none =>
              refine .reports ?_
              rw [Handler.fault?, hLine, hDestination]
              simp only [hBytes]
          | some bytes =>
              dsimp only [addLine]
              split
              · exact .prints hDestination hLine hBytes ‹_›
              · exact .appends hDestination hLine hBytes ‹_›

section Handled

variable {record : Record}
variable {handler : Handler}
variable {world after : World}

theorem Handled.unmoved
    (hHandled : Handled record handler world after) :
    Unmoved world after := by
  cases hHandled with
  | reports hFault => exact report_unmoved record _ world
  | complains hConsole hLine => exact ⟨Alike.refl _, rfl, rfl, rfl, rfl⟩
  | prints hFile hLine hBytes hOutlet => exact ⟨Alike.refl _, rfl, rfl, rfl, rfl⟩
  | appends hFile hLine hBytes hOutlet =>
      exact ⟨Alike.append _ _ _, rfl, rfl, rfl, rfl⟩

/- A handler that writes elsewhere leaves the output alone. -/
theorem Handled.output
    (hHandled : Handled record handler world after)
    (hApart :
      ∀ serial, handler.destination = .file serial →
        world.outlet ≠ some serial) :
    after.output = world.output := by
  cases hHandled with
  | reports hFault => rw [report_eq]
  | complains hConsole hLine => rfl
  | prints hFile hLine hBytes hOutlet => exact absurd hOutlet (hApart _ hFile)
  | appends hFile hLine hBytes hOutlet => rfl

/- A handler for the console leaves the files alone. -/
theorem Handled.tree
    (hHandled : Handled record handler world after)
    (hConsole : handler.destination = .console) :
    after.tree = world.tree := by
  cases hHandled with
  | reports hFault => rw [report_eq]
  | complains hSame hLine => rfl
  | prints hFile hLine hBytes hOutlet => rfl
  | appends hFile hLine hBytes hOutlet =>
      rw [hConsole] at hFile
      cases hFile

/- A handler writes to the file that records go to, or to none. -/
theorem Handled.sameBut
    {log? : Option Nat}
    (hHandled : Handled record handler world after)
    (hWrites : WritesTo log? handler)
    (hHolds : Holds world.tree log?) :
    SameBut log? world.tree after.tree := by
  cases hHandled with
  | reports hFault =>
      rw [report_eq]
      exact SameBut.refl _ _
  | complains hConsole hLine => exact SameBut.refl _ _
  | prints hFile hLine hBytes hOutlet => exact SameBut.refl _ _
  | appends hFile hLine hBytes hOutlet =>
      rcases hWrites with hConsole | ⟨serial, rfl, hSame⟩
      · rw [hFile] at hConsole
        cases hConsole
      · rw [hFile] at hSame
        cases hSame
        exact SameBut.append _ (hHolds _ rfl) _

/- A handler that has no line for the console writes none there. -/
theorem Handled.reportsOnly
    (hHandled : Handled record handler world after)
    (hOther :
      handler.destination = .console →
        ∃ fault,
          record.line handler.layout world.log.context = .error fault) :
    Logs world after [] := by
  cases hHandled with
  | reports hFault => exact report_logs record _ world
  | complains hConsole hLine =>
      rcases hOther hConsole with ⟨fault, hFault⟩
      rw [hLine] at hFault
      cases hFault
  | prints hFile hLine hBytes hOutlet => exact Logs.of_same rfl rfl
  | appends hFile hLine hBytes hOutlet => exact Logs.of_same rfl rfl

end Handled

theorem output_handleAll
    {record : Record}
    {handlers : List Handler}
    {world : World}
    (hApart :
      ∀ handler ∈ handlers, ∀ serial,
        handler.destination = .file serial → world.outlet ≠ some serial) :
    (handlers.foldl (handle record) world).output = world.output := by
  induction handlers generalizing world with
  | nil => rfl
  | cons handler rest ih =>
      have hFirst := hApart handler (List.mem_cons_self ..)
      rw [List.foldl_cons, ih,
        (handle_handled record handler world).output hFirst]
      intro later hMem
      rw [(handle_handled record handler world).unmoved.outlet]
      exact hApart later (List.mem_cons_of_mem _ hMem)

theorem handleAll_sameBut
    {log? : Option Nat}
    (record : Record)
    {handlers : List Handler}
    (hWrites : ∀ handler ∈ handlers, WritesTo log? handler)
    {world : World}
    (hHolds : Holds world.tree log?) :
    SameBut log? world.tree
      (handlers.foldl (handle record) world).tree := by
  induction handlers generalizing world with
  | nil => exact SameBut.refl _ _
  | cons handler rest ih =>
      have hFirst :=
        (handle_handled record handler world).sameBut
          (hWrites handler (List.mem_cons_self ..)) hHolds
      refine hFirst.trans
        (ih (fun later hMem => hWrites later (List.mem_cons_of_mem _ hMem))
          ?_)
      intro serial hSome
      rw [← hFirst.fresh]
      exact hHolds serial hSome

theorem handleAll_unmoved
    (record : Record)
    (handlers : List Handler)
    (world : World) :
    Unmoved world (handlers.foldl (handle record) world) := by
  induction handlers generalizing world with
  | nil => exact Unmoved.refl world
  | cons handler rest ih =>
      exact (handle_handled record handler world).unmoved.trans (ih _)

/- A handler for the console writes the line of a record there. -/
theorem handle_logs
    {record : Record}
    {world : World}
    {handler : Handler}
    {line : Text}
    (hConsole : handler.destination = .console)
    (hLine : record.line handler.layout world.log.context = .ok line) :
    Logs world (world.handle record handler) [record.level] := by
  unfold handle
  rw [hLine, hConsole]
  refine ⟨rfl, line ++ "\n" ++ { }, LinesOf.more hLine LinesOf.none, ?_⟩
  rw [Text.append_empty]
  rfl

theorem handleAll_reports
    {record : Record}
    {handlers : List Handler}
    (hFiles : ∀ handler ∈ handlers, handler.destination ≠ .console)
    (world : World) :
    Logs world (handlers.foldl (handle record) world) [] := by
  induction handlers generalizing world with
  | nil => exact Logs.refl world
  | cons handler rest ih =>
      have hFirst : Logs world (world.handle record handler) [] :=
        (handle_handled record handler world).reportsOnly fun hConsole =>
          absurd hConsole (hFiles handler (List.mem_cons_self ..))
      have hRest := ih
        (fun later hMem => hFiles later (List.mem_cons_of_mem _ hMem))
        (world.handle record handler)
      exact hFirst.trans hRest

------------------------------------------------------------
-- Records
------------------------------------------------------------

/- The console comes first, and all other handlers write to files. -/
def HasConsole
    (book : Logbook) : Prop :=
  ∃ layout files, book.handlers = ⟨.console, layout⟩ :: files ∧
    ∀ handler ∈ files, handler.destination ≠ .console

/- There is a console to log to, and every record has a moment. -/
structure IsSetUp
    (world : World) : Prop where
  console : HasConsole world.log
  context : world.log.context.IsOfTexts
  clock : ∃ m, Clock.moment world.now = .ok m

theorem Ran.isSetUp
    {world after : World}
    {text : Text}
    (hRan : Ran world after text)
    (hSetUp : world.IsSetUp) :
    after.IsSetUp := by
  rcases hSetUp with ⟨hConsole, hContext, hClock⟩
  rw [← hRan.log] at hConsole hContext
  rw [← hRan.now] at hClock
  exact ⟨hConsole, hContext, hClock⟩

variable {world : World}

theorem record_unmoved
    (hSetUp : world.IsSetUp)
    (record : Record) :
    Unmoved world (world.record record) := by
  rcases hSetUp.console with ⟨layout, files, hHandlers, _⟩
  unfold World.record
  split
  · exact Unmoved.refl world
  · rw [hHandlers]
    exact handleAll_unmoved record _ world

/- A record leaves the output alone, if no handler writes there. -/
theorem output_record
    (hSetUp : world.IsSetUp)
    (hApart : world.IsApart)
    (record : Record) :
    (world.record record).output = world.output := by
  rcases hSetUp.console with ⟨layout, files, hHandlers, _⟩
  unfold IsApart at hApart
  unfold World.record
  rw [hHandlers] at hApart ⊢
  split
  · rfl
  · exact output_handleAll hApart

/- A record gets into the file that records go to, or into none. -/
theorem record_keepsFiles
    (world : World)
    (record : Record) :
    KeepsFiles world (world.record record) := by
  intro log? hWrites hHolds
  unfold World.record
  split
  · exact SameBut.refl _ _
  · split
    · rw [lastResort_eq]
      exact SameBut.refl _ _
    · rename_i hHandlers
      exact handleAll_sameBut record hWrites hHolds

/- A record below the level in force leaves no trace. -/
theorem record_of_unaccepted
    {record : Record}
    (hLevel : world.log.accepts record.level = false) :
    world.record record = world := by
  rw [World.record, hLevel]
  rfl

/- An accepted record gets its line on the error stream, if it has one. -/
theorem record_logs_or_reports
    (hSetUp : world.IsSetUp)
    {record : Record}
    (hLevel : world.log.accepts record.level = true) :
    ∃ layout,
      match record.line layout world.log.context with
      | .ok _ => Logs world (world.record record) [record.level]
      | .error _ => Logs world (world.record record) [] := by
  rcases hSetUp.console with ⟨layout, files, hHandlers, hFiles⟩
  refine ⟨layout, ?_⟩
  have hRecord :
      world.record record =
        files.foldl (handle record)
          (world.handle record ⟨.console, layout⟩) := by
    rw [World.record, hLevel, hHandlers]
    rfl
  have hRest :
      Logs (world.handle record ⟨.console, layout⟩)
        (files.foldl (handle record)
          (world.handle record ⟨.console, layout⟩)) [] :=
    handleAll_reports hFiles _
  rw [hRecord]
  cases hLine : record.line layout world.log.context with
  | error fault =>
      have hFirst :
          Logs world (world.handle record ⟨.console, layout⟩) [] :=
        (handle_handled record _ world).reportsOnly fun _ =>
          ⟨fault, hLine⟩
      exact hFirst.trans hRest
  | ok line =>
      have hFirst :
          Logs world (world.handle record ⟨.console, layout⟩)
            [record.level] :=
        handle_logs rfl hLine
      exact hFirst.trans hRest

/- A record that has a text is told of on the error stream. -/
theorem record_logs
    (hSetUp : world.IsSetUp)
    {record : Record}
    (hLevel : world.log.accepts record.level = true)
    (hCreated : record.created = world.now)
    (hText : ∃ t, record.text = .ok t)
    (hFailure : record.failure = none) :
    Logs world (world.record record) [record.level] := by
  rcases record_logs_or_reports hSetUp hLevel with ⟨layout, hLogs⟩
  have hMoment := hSetUp.clock
  rw [← hCreated] at hMoment
  rcases Record.exists_line hMoment hText hFailure
      hSetUp.context.isOfStrings layout with ⟨line, hLine⟩
  rw [hLine] at hLogs
  exact hLogs

/- With only a console, no file gets a line. -/
theorem tree_record
    (hOnly : world.HasOnlyConsole)
    (record : Record) :
    (world.record record).tree = world.tree := by
  rcases hOnly with ⟨layout, hHandlers⟩
  unfold World.record
  split
  · rfl
  · rw [hHandlers]
    exact (handle_handled record ⟨.console, layout⟩ world).tree rfl

/- To write a record is a part of a run. -/
theorem record_ran
    (hSetUp : world.IsSetUp)
    {record : Record}
    (hOther : record.level ≠ errorLevel) :
    Ran world (world.record record) { } where
  output := by
    intro hApart
    rw [output_record hSetUp hApart, Text.append_empty]
  logs := by
    cases hLevel : world.log.accepts record.level with
    | false =>
        rw [record_of_unaccepted hLevel]
        exact ⟨[], List.not_mem_nil, Logs.refl world⟩
    | true =>
        rcases record_logs_or_reports hSetUp hLevel with ⟨layout, hLogs⟩
        revert hLogs
        split
        · intro hLogs
          refine ⟨[record.level], ?_, hLogs⟩
          rw [List.mem_singleton]
          exact hOther.symm
        · intro hLogs
          exact ⟨[], List.not_mem_nil, hLogs⟩
  tree := (record_unmoved hSetUp record).tree
  kept := fun hOnly => tree_record hOnly record
  files := record_keepsFiles world record
  log := (record_unmoved hSetUp record).log
  now := (record_unmoved hSetUp record).now
  outlet := (record_unmoved hSetUp record).outlet

end World

------------------------------------------------------------
-- Parts Of Runs
------------------------------------------------------------

namespace Run

open World

variable {α β : Type}

/-
  Wherever logging is set up, a part of a run has this result
  and writes this text.
-/
def Does
    (act : Run α)
    (result : Outcome α)
    (text : Text) : Prop :=
  ∀ world, world.IsSetUp →
    (act world).1 = result ∧ Ran world (act world).2 text

namespace Does

theorem ofOutcome
    (outcome : Outcome α) :
    Does (liftM outcome) outcome { } := by
  intro world _
  rw [Stateful.liftM_apply]
  exact ⟨rfl, Ran.refl world⟩

theorem pure
    (a : α) :
    Does (Pure.pure a) (.ok a) { } := by
  intro world _
  exact ⟨rfl, Ran.refl world⟩

theorem print
    (text : Text) :
    Does (Run.print text) (.ok ⟨⟩) text := by
  intro world _
  refine ⟨rfl, fun _ => rfl, ⟨[], List.not_mem_nil, Logs.of_same rfl rfl⟩,
    Alike.refl _, fun _ => rfl, KeepsFiles.refl world, rfl, rfl, rfl⟩

/- One part after the other. -/
theorem bind
    {act : Run α}
    {next : α → Run β}
    {a : α}
    {result : Outcome β}
    {text more : Text}
    (hAct : Does act (.ok a) text)
    (hNext : Does (next a) result more) :
    Does (act >>= next) result (text ++ more) := by
  intro world hSetUp
  rcases hAct world hSetUp with ⟨hResult, hRan⟩
  rcases hNext (act world).2 (hRan.isSetUp hSetUp) with
    ⟨hLater, hRest⟩
  rw [Stateful.bind_of_ok (Prod.ext hResult rfl)]
  exact ⟨hLater, hRan.trans hRest⟩

/- After a part that does nothing else, the rest is all there is. -/
theorem before
    {act : Run α}
    {next : α → Run β}
    {a : α}
    {result : Outcome β}
    {text : Text}
    (hAct : Does act (.ok a) { })
    (hNext : Does (next a) result text) :
    Does (act >>= next) result text := by
  have hBoth := hAct.bind hNext
  rw [Text.empty_append] at hBoth
  exact hBoth

/- A part that writes nothing does not add to what is written. -/
theorem thenSilent
    {act : Run α}
    {next : α → Run β}
    {a : α}
    {result : Outcome β}
    {text : Text}
    (hAct : Does act (.ok a) text)
    (hNext : Does (next a) result { }) :
    Does (act >>= next) result text := by
  have hBoth := hAct.bind hNext
  rw [Text.append_empty] at hBoth
  exact hBoth

/- A part that fails is the last one. -/
theorem bind_error
    {act : Run α}
    {fault : Fault}
    {text : Text}
    (hAct : Does act (.error fault) text)
    (next : α → Run β) :
    Does (act >>= next) (.error fault) text := by
  intro world hSetUp
  rcases hAct world hSetUp with ⟨hResult, hRan⟩
  rw [Stateful.bind_of_error (Prod.ext hResult rfl)]
  exact ⟨rfl, hRan⟩

/- A part that writes nothing, and another one. -/
theorem andThen
    {act : Run α}
    {next : α → Run β}
    {outcome : Outcome α}
    {result : α → Outcome β}
    (hAct : Does act outcome { })
    (hNext : ∀ a, Does (next a) (result a) { }) :
    Does (act >>= next) (outcome >>= result) { } := by
  cases outcome with
  | error fault => exact hAct.bind_error next
  | ok a => exact hAct.before (hNext a)

/- What follows a part makes something of its result. -/
theorem mapped
    {act : Run α}
    {next : α → Run β}
    {outcome : Outcome α}
    {change : α → β}
    (hAct : Does act outcome { })
    (hNext : ∀ a, Does (next a) (.ok (change a)) { }) :
    Does (act >>= next) (outcome.map change) { } := by
  cases outcome with
  | error fault => exact hAct.bind_error next
  | ok a => exact hAct.before (hNext a)

end Does

/- To log anything but a failure does nothing else. -/
theorem log_does
    {level : Int}
    (hLevel : level ≠ errorLevel)
    (name message : Text)
    (args : List Value) :
    Does (Run.log name level message args) (.ok ⟨⟩) { } := by
  intro world hSetUp
  exact ⟨rfl, record_ran hSetUp hLevel⟩

end Run

end Joinery
