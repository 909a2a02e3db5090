import Joinery.Proofs.Command.Logging
import Joinery.Proofs.FileTree.Growth
import Joinery.Proofs.Log.Clear

/-
  What a record adds to the destinations of the handlers. As
  long as at most one handler writes to the console and at
  most one to a file, each destination gets the line of a
  record once. A handler that cannot write the record reports
  this to the console, behind the line of the record there.

  Key definitions include:
    * `World.reports`
    * `World.KeepsLog`
    * `Destination.Gets`
    * `Logbook.IsOrderly`

  Key theorems include:
    * `World.errors_handleAll`
    * `World.reports_eq_empty`
    * `Logbook.IsOrderly.alone`
    * `World.record_gets`
    * `World.record_grows`
-/

namespace Joinery

open FileTree

------------------------------------------------------------
-- Reports
------------------------------------------------------------

namespace World

/- What is reported of a record that cannot be written for this fault. -/
def reportText
    (record : Record)
    (world : World)
    (fault : Fault) : Text :=
  match world.trace with
  | none => { }
  | some told => record.report (told record fault)

/- What handlers report of a record, each that cannot write it. -/
def reports
    (record : Record)
    (handlers : List Handler)
    (world : World) : Text :=
  Text.join
    ((handlers.filterMap (Handler.fault? record world.log.context)).map
      (world.reportText record))

variable {record : Record}
variable {handler : Handler}
variable {handlers : List Handler}
variable {world : World}

theorem errors_report
    (record : Record)
    (fault : Fault)
    (world : World) :
    (world.report record fault).errors =
      world.errors ++ world.reportText record fault := by
  rw [report, reportText]
  cases world.trace with
  | none => exact (Text.append_empty _).symm
  | some told => rfl

theorem reports_cons_of_none
    (hNone : handler.fault? record world.log.context = none) :
    world.reports record (handler :: handlers) =
      world.reports record handlers := by
  rw [reports, List.filterMap_cons_none hNone, reports]

theorem reports_cons_of_some
    {fault : Fault}
    (hFault : handler.fault? record world.log.context = some fault) :
    world.reports record (handler :: handlers) =
      world.reportText record fault ++ world.reports record handlers := by
  rw [reports, List.filterMap_cons_some hFault, List.map_cons,
    Text.join_cons, reports]

/- What is reported depends on the context and on how faults are told. -/
theorem reports_congr
    {after : World}
    (hLog : after.log = world.log)
    (hTrace : after.trace = world.trace) :
    after.reports record handlers = world.reports record handlers := by
  have hText : after.reportText record = world.reportText record := by
    funext fault
    rw [reportText, reportText, hTrace]
  rw [reports, reports, hLog, hText]

------------------------------------------------------------
-- The Console
------------------------------------------------------------

/- A handler for the console that has a line writes it. -/
theorem errors_handle_line
    {line : Text}
    (hConsole : handler.destination = .console)
    (hLine : record.line handler.layout world.log.context = .ok line) :
    (world.handle record handler).errors =
      world.errors ++ (line ++ "\n") := by
  unfold handle
  rw [hLine, hConsole]
  rfl

/- Any other handler says on the console what it cannot write. -/
theorem Handled.errors
    {after : World}
    (hHandled : Handled record handler world after)
    (hFile : handler.destination ≠ .console) :
    after.errors = world.errors ++ world.reports record [handler] := by
  have hNothing : world.reports record [] = { } := rfl
  cases hHandled with
  | reports hFault =>
      rw [errors_report, reports_cons_of_some hFault, hNothing,
        Text.append_empty]
  | complains hConsole hLine => exact absurd hConsole hFile
  | prints hSame hLine hBytes hOutlet =>
      have hFine := Handler.fault?_of_bytes hSame hLine hBytes
      rw [reports_cons_of_none hFine, hNothing, Text.append_empty]
      rfl
  | appends hSame hLine hBytes hOutlet =>
      have hFine := Handler.fault?_of_bytes hSame hLine hBytes
      rw [reports_cons_of_none hFine, hNothing, Text.append_empty]

theorem errors_handleAll
    (hFiles : ∀ handler ∈ handlers, handler.destination ≠ .console)
    (world : World) :
    (handlers.foldl (handle record) world).errors =
      world.errors ++ world.reports record handlers := by
  induction handlers generalizing world with
  | nil => exact (Text.append_empty _).symm
  | cons handler rest ih =>
      have hHandled := handle_handled record handler world
      have hSame := hHandled.unmoved
      rw [List.foldl_cons,
        ih fun other hMem => hFiles other (List.mem_cons_of_mem _ hMem),
        hHandled.errors (hFiles handler (List.mem_cons_self ..)),
        reports_congr hSame.log hSame.trace, Text.append_assoc]
      congr 1
      cases hFault : handler.fault? record world.log.context with
      | none =>
          rw [reports_cons_of_none hFault, reports_cons_of_none hFault]
          exact Text.empty_append _
      | some fault =>
          rw [reports_cons_of_some hFault, reports_cons_of_some hFault,
            Text.append_assoc]
          exact congrArg (_ ++ ·) (Text.empty_append _)

------------------------------------------------------------
-- Files
------------------------------------------------------------

/- Nothing has been written to a file, or to the output if it is that. -/
structure KeepsLog
    (serial : Nat)
    (world after : World) : Prop where
  bytes : after.tree.bytes serial = world.tree.bytes serial
  output : world.outlet = some serial → after.output = world.output
  outlet : after.outlet = world.outlet

theorem KeepsLog.refl
    (serial : Nat)
    (world : World) :
    KeepsLog serial world world :=
  ⟨rfl, fun _ => rfl, rfl⟩

theorem KeepsLog.trans
    {serial : Nat}
    {after last : World}
    (hFirst : KeepsLog serial world after)
    (hSecond : KeepsLog serial after last) :
    KeepsLog serial world last where
  bytes := hSecond.bytes.trans hFirst.bytes
  output := by
    intro hOutlet
    rw [hSecond.output (hFirst.outlet.trans hOutlet),
      hFirst.output hOutlet]
  outlet := hSecond.outlet.trans hFirst.outlet

/- A handler writes to no file but its own. -/
theorem Handled.keepsLog
    {after : World}
    (hHandled : Handled record handler world after)
    {serial : Nat}
    (hOther : handler.destination ≠ .file serial) :
    KeepsLog serial world after := by
  cases hHandled with
  | reports hFault =>
      rw [report_eq]
      exact ⟨rfl, fun _ => rfl, rfl⟩
  | complains hConsole hLine => exact ⟨rfl, fun _ => rfl, rfl⟩
  | prints hFile hLine hBytes hOutlet =>
      refine ⟨rfl, fun hSerial => ?_, rfl⟩
      rw [hOutlet] at hSerial
      cases hSerial
      exact absurd hFile hOther
  | appends hFile hLine hBytes hOutlet =>
      refine ⟨?_, fun _ => rfl, rfl⟩
      refine (bytes_write _ _ _ _).trans (if_neg ?_)
      rintro rfl
      exact hOther hFile

theorem handleAll_keepsLog
    (record : Record)
    {serial : Nat}
    (hOthers : ∀ handler ∈ handlers, handler.destination ≠ .file serial)
    (world : World) :
    KeepsLog serial world (handlers.foldl (handle record) world) := by
  induction handlers generalizing world with
  | nil => exact .refl serial world
  | cons handler rest ih =>
      have hFirst := (handle_handled record handler world).keepsLog
        (hOthers handler (List.mem_cons_self ..))
      refine hFirst.trans (ih (fun other hMem => ?_) _)
      exact hOthers other (List.mem_cons_of_mem _ hMem)

/-
  A file has got a text behind what it held, or the output has
  if it is that file.
-/
def GetsInFile
    (serial : Nat)
    (text : Text)
    (world after : World) : Prop :=
  ∃ bytes, Encoding.encode? Encoding.ofFiles text = some bytes ∧
    if world.outlet = some serial then
      after.output = world.output ++ text ∧
        after.tree.bytes serial = world.tree.bytes serial
    else after.tree.bytes serial = world.tree.bytes serial ++ bytes

theorem GetsInFile.ofKeeps
    {serial : Nat}
    {text : Text}
    {before after last : World}
    (hBefore : KeepsLog serial before world)
    (hGets : GetsInFile serial text world after)
    (hOutlet : after.outlet = world.outlet)
    (hAfter : KeepsLog serial after last) :
    GetsInFile serial text before last := by
  rcases hGets with ⟨bytes, hBytes, hAdded⟩
  refine ⟨bytes, hBytes, ?_⟩
  rw [hBefore.outlet] at hAdded
  split
  · rename_i hSerial
    rw [if_pos hSerial] at hAdded
    have hSame := hOutlet.trans (hBefore.outlet.trans hSerial)
    exact ⟨by rw [hAfter.output hSame, hAdded.1, hBefore.output hSerial],
      by rw [hAfter.bytes, hAdded.2, hBefore.bytes]⟩
  · rename_i hSerial
    rw [if_neg hSerial] at hAdded
    rw [hAfter.bytes, hAdded, hBefore.bytes]

/- A handler for a file writes the line of a record that the file can hold. -/
theorem Handled.getsInFile
    {after : World}
    (hHandled : Handled record handler world after)
    {serial : Nat}
    {line : Text}
    (hFile : handler.destination = .file serial)
    (hLine : record.line handler.layout world.log.context = .ok line)
    (hClear : line.IsClear) :
    GetsInFile serial (line ++ "\n") world after := by
  have hBytes :=
    Encoding.encode?_ofFiles
      (hClear.append (Text.isClear_ofString "\n"))
  refine ⟨_, hBytes, ?_⟩
  cases hHandled with
  | reports hFault =>
      rw [Handler.fault?_of_bytes hFile hLine hBytes] at hFault
      cases hFault
  | complains hConsole hOther =>
      rw [hFile] at hConsole
      cases hConsole
  | prints hSame hOther hWritten hOutlet =>
      rw [hFile] at hSame
      rw [hLine] at hOther
      cases hSame
      cases hOther
      rw [if_pos hOutlet]
      exact ⟨rfl, rfl⟩
  | appends hSame hOther hWritten hOutlet =>
      rw [hFile] at hSame
      rw [hLine] at hOther
      cases hSame
      cases hOther
      rw [hBytes] at hWritten
      cases hWritten
      rw [if_neg hOutlet]
      exact (bytes_write _ _ _ _).trans (if_pos rfl)

/- A handler only adds to the files that are there. -/
theorem Handled.grows
    {after : World}
    (hHandled : Handled record handler world after) :
    world.tree.GrowsInto after.tree := by
  cases hHandled with
  | reports hFault =>
      rw [report_eq]
      exact .refl _
  | complains hConsole hLine => exact .refl _
  | prints hFile hLine hBytes hOutlet => exact .refl _
  | appends hFile hLine hBytes hOutlet => exact .append _ _ _

theorem handleAll_grows
    (record : Record)
    (handlers : List Handler)
    (world : World) :
    world.tree.GrowsInto (handlers.foldl (handle record) world).tree := by
  induction handlers generalizing world with
  | nil => exact .refl _
  | cons handler rest ih =>
      exact (handle_handled record handler world).grows.trans (ih _)

end World

------------------------------------------------------------
-- Destinations
------------------------------------------------------------

/-
  The line of a record has been written to a destination, with
  an end of line. Behind it, the console has got the reports
  of the handlers that cannot write the record.
-/
def Destination.Gets
    (destination : Destination)
    (record : Record)
    (line : Text)
    (world after : World) : Prop :=
  match destination with
  | .console =>
      after.errors =
        world.errors ++ (line ++ "\n") ++
          world.reports record world.log.handlers
  | .file serial => World.GetsInFile serial (line ++ "\n") world after

------------------------------------------------------------
-- Orderly Logbooks
------------------------------------------------------------

/- A handler writes to the console. -/
def Handler.isConsole
    (handler : Handler) : Bool :=
  handler.destination = .console

/-
  The handlers are those that a setup has installed. There is
  at most one for the console, which comes first, and at most
  one for a file.
-/
structure Logbook.IsOrderly
    (book : Logbook) : Prop where
  installed : book.handlers = book.installed
  first : ∀ handler ∈ book.handlers.tail, handler.isConsole = false
  console : book.handlers.countP Handler.isConsole ≤ 1
  file : book.handlers.countP (fun handler => !handler.isConsole) ≤ 1

/- What at most one item of a list has, one item has alone. -/
theorem exists_alone
    {α : Type}
    {has : α → Bool}
    {items : List α}
    (hOne : items.countP has ≤ 1)
    {item : α}
    (hMem : item ∈ items)
    (hItem : has item = true) :
    ∃ before after, items = before ++ item :: after ∧
      (∀ other ∈ before, has other = false) ∧
      ∀ other ∈ after, has other = false := by
  rcases List.append_of_mem hMem with ⟨before, after, rfl⟩
  rw [List.countP_append, List.countP_cons_of_pos hItem] at hOne
  have hBefore : before.countP has = 0 := by omega
  have hAfter : after.countP has = 0 := by omega
  rw [List.countP_eq_zero] at hBefore hAfter
  exact ⟨before, after, rfl,
    fun other hOther => Bool.eq_false_iff.mpr (hBefore other hOther),
    fun other hOther => Bool.eq_false_iff.mpr (hAfter other hOther)⟩

/- In an orderly logbook, no two handlers have one destination. -/
theorem Logbook.IsOrderly.alone
    {book : Logbook}
    (hOrderly : book.IsOrderly)
    {handler : Handler}
    (hMem : handler ∈ book.handlers) :
    ∃ before after, book.handlers = before ++ handler :: after ∧
      (∀ other ∈ before, other.destination ≠ handler.destination) ∧
      ∀ other ∈ after, other.destination ≠ handler.destination := by
  -- One of the two bounds is about handlers of the same kind.
  have hKind :
      book.handlers.countP
        (fun other => other.isConsole == handler.isConsole) ≤ 1 := by
    cases handler.isConsole with
    | true => simpa using hOrderly.console
    | false => simpa using hOrderly.file
  rcases exists_alone hKind hMem (beq_self_eq_true _) with
    ⟨before, after, hHandlers, hBefore, hAfter⟩
  have hApart :
      ∀ other : Handler, (other.isConsole == handler.isConsole) = false →
        other.destination ≠ handler.destination := by
    intro other hOther hSame
    unfold Handler.isConsole at hOther
    rw [hSame, beq_self_eq_true] at hOther
    cases hOther
  exact ⟨before, after, hHandlers,
    fun other hOther => hApart other (hBefore other hOther),
    fun other hOther => hApart other (hAfter other hOther)⟩

------------------------------------------------------------
-- Records
------------------------------------------------------------

namespace World

variable {world : World}
variable {record : Record}

/- A record leaves the state of logging as it is. -/
theorem record_log
    (world : World)
    (record : Record) :
    (world.record record).log = world.log := by
  unfold World.record
  split
  · rfl
  · split
    · rw [lastResort_eq]
    · exact (handleAll_unmoved record _ world).log

/- A record only adds to the files that are there. -/
theorem record_grows
    (world : World)
    (record : Record) :
    world.tree.GrowsInto (world.record record).tree := by
  unfold World.record
  split
  · exact .refl _
  · split
    · rw [lastResort_eq]
      exact .refl _
    · exact handleAll_grows record _ world

/- An accepted record is given to the handlers one by one. -/
theorem record_of_handlers
    (hAccepted : world.log.accepts record.level = true)
    (hSome : world.log.handlers ≠ []) :
    world.record record =
      world.log.handlers.foldl (handle record) world := by
  unfold World.record
  rw [hAccepted, if_neg (by decide)]
  split
  · rename_i hNone
    exact absurd hNone hSome
  · rfl

/- The console comes first, and then the other handlers. -/
theorem record_gets_console
    (hOrderly : world.log.IsOrderly)
    (hAccepted : world.log.accepts record.level = true)
    {handler : Handler}
    (hMem : handler ∈ world.log.handlers)
    (hConsole : handler.destination = .console)
    {line : Text}
    (hLine : record.line handler.layout world.log.context = .ok line) :
    Destination.console.Gets record line world (world.record record) := by
  have hFirst : ∃ files, world.log.handlers = handler :: files := by
    cases hHandlers : world.log.handlers with
    | nil =>
        rw [hHandlers] at hMem
        cases hMem
    | cons first files =>
        rw [hHandlers] at hMem
        rcases List.mem_cons.mp hMem with rfl | hLater
        · exact ⟨files, rfl⟩
        · have hOther := hOrderly.first handler (by rwa [hHandlers])
          rw [Handler.isConsole, hConsole] at hOther
          cases hOther
  rcases hFirst with ⟨files, hHandlers⟩
  have hFiles : ∀ other ∈ files, other.destination ≠ .console := by
    intro other hOther hSame
    have hFalse := hOrderly.first other (by rwa [hHandlers])
    rw [Handler.isConsole, hSame] at hFalse
    cases hFalse
  have hFine : handler.fault? record world.log.context = none := by
    rw [Handler.fault?, hLine, hConsole]
  have hSame := (handle_handled record handler world).unmoved
  have hSome : world.log.handlers ≠ [] := by
    rw [hHandlers]
    exact List.cons_ne_nil _ _
  unfold Destination.Gets
  rw [record_of_handlers hAccepted hSome, hHandlers, List.foldl_cons,
    errors_handleAll hFiles, errors_handle_line hConsole hLine,
    reports_congr hSame.log hSame.trace, reports_cons_of_none hFine]

/- A file gets the line of a record from its own handler only. -/
theorem record_gets_file
    (hOrderly : world.log.IsOrderly)
    (hAccepted : world.log.accepts record.level = true)
    {handler : Handler}
    (hMem : handler ∈ world.log.handlers)
    {serial : Nat}
    (hFile : handler.destination = .file serial)
    {line : Text}
    (hLine : record.line handler.layout world.log.context = .ok line)
    (hClear : line.IsClear) :
    (Destination.file serial).Gets record line world
      (world.record record) := by
  rcases hOrderly.alone hMem with
    ⟨before, after, hHandlers, hBefore, hAfter⟩
  rw [hFile] at hBefore hAfter
  have hSame := handleAll_unmoved record before world
  rw [← hSame.log] at hLine
  have hGets :=
    (handle_handled record handler _).getsInFile hFile hLine hClear
  unfold Destination.Gets
  rw [record_of_handlers hAccepted (List.ne_nil_of_mem hMem), hHandlers,
    List.foldl_append, List.foldl_cons]
  exact hGets.ofKeeps (handleAll_keepsLog record hBefore world)
    (handle_handled record handler _).unmoved.outlet
    (handleAll_keepsLog record hAfter _)

/- An accepted record is written once to the destination of a handler. -/
theorem record_gets
    (hOrderly : world.log.IsOrderly)
    (hAccepted : world.log.accepts record.level = true)
    {handler : Handler}
    (hMem : handler ∈ world.log.handlers)
    {line : Text}
    (hLine : record.line handler.layout world.log.context = .ok line)
    (hHolds : handler.destination = .console ∨ line.IsClear) :
    handler.destination.Gets record line world (world.record record) := by
  cases hDestination : handler.destination with
  | console =>
      exact record_gets_console hOrderly hAccepted hMem hDestination hLine
  | file serial =>
      refine record_gets_file hOrderly hAccepted hMem hDestination hLine
        (hHolds.resolve_left ?_)
      rw [hDestination]
      exact nofun

end World

end Joinery
