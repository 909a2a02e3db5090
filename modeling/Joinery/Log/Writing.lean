import Joinery.Encoding.Utf8
import Joinery.World

/-
  This file writes records through the installed handlers.

  Key definitions include:
    * `World.report`
    * `World.handle`
    * `World.record`
    * `Run.log`
-/

namespace Joinery

namespace World

/- Report a record that could not be written, where this is done. -/
def report
    (record : Record)
    (fault : Fault)
    (world : World) : World :=
  match world.trace with
  | none => world
  | some trace => world.complain (record.report (trace record fault))

/- Add a line to a file, or write it to the output if that is the file. -/
def addLine
    (serial : Nat)
    (line : Text)
    (bytes : List UInt8)
    (world : World) : World :=
  if world.outlet = some serial then world.print line
  else { world with tree := world.tree.append serial bytes }

/-
  What a handler does with a record. A record that has no
  line in the handler's layout, or one that its file cannot
  hold, is reported instead of being written.
-/
def handle
    (record : Record)
    (world : World)
    (handler : Handler) : World :=
  match record.line handler.layout world.log.context with
  | .error fault => world.report record fault
  | .ok line =>
      match handler.destination with
      | .console => world.complain (line ++ "\n")
      | .file serial =>
          match Encoding.encode? Encoding.ofFiles (line ++ "\n") with
          | none => world.report record (.notEncodable Encoding.ofFiles)
          | some bytes => world.addLine serial (line ++ "\n") bytes

/- The level from which on a record is told even without handlers. -/
def lastResortLevel : Int := 30

/- Without handlers, only the bare text of a warning is written. -/
def lastResort
    (record : Record)
    (world : World) : World :=
  if record.level < lastResortLevel then world
  else
    match record.bareText with
    | .error fault => world.report record fault
    | .ok text => world.complain (text ++ "\n")

/- Write a record through all handlers, if its level is accepted. -/
def record
    (world : World)
    (record : Record) : World :=
  if !world.log.accepts record.level then world
  else
    match world.log.handlers with
    | [] => world.lastResort record
    | handlers => handlers.foldl (handle record) world

end World

------------------------------------------------------------
-- Logging In A Run
------------------------------------------------------------

/- The name of a logger; the nameless one is the root. -/
def loggerName
    (name : Text) : Text :=
  if name.isEmpty then "root" else name

/- Log a message with its values, at this moment. -/
def Run.log
    (name : Text)
    (level : Int)
    (message : Text)
    (args : List Value) : Run Unit :=
  modify fun world =>
    world.record {
      name := loggerName name
      level := level
      message := message
      args := args
      created := world.now
      process := world.process }

end Joinery
