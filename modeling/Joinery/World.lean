import Joinery.FileTree.Basic
import Joinery.Log.Handler

/-
  This file defines what a run of the command can see and
  change: files, logging, and the two streams it writes to.

  Key definitions include:
    * `World`
    * `Run`
    * `Run.onDisk`
    * `Run.print`
    * `Run.complain`
-/

namespace Joinery

/-
  The surroundings of a run: the files, the state of
  logging, what has been written to the output and to the
  error stream, whether the latter is a terminal, the time,
  in seconds since 1970, and the number of the process.

  The output may have a place among the files: then one of
  them is the outlet, and what is added to it is written to
  the output. Where records that could not be written are
  reported, the faults of such records have traces.
-/
structure World where
  tree : FileTree
  log : Logbook := { }
  output : Text := ""
  errors : Text := ""
  terminal : Bool := false
  now : Float := 0.0
  process : UInt32 := 1
  outlet : Option Nat := none
  trace : Option (Record → Fault → Text) := none

/- Something that is done in the world, and may fail. -/
abbrev Run :=
  ExceptT Fault (StateM World)

/- Write text to the error stream. -/
def World.complain
    (world : World)
    (text : Text) : World :=
  { world with errors := world.errors ++ text }

/- Write text to the output. -/
def World.print
    (world : World)
    (text : Text) : World :=
  { world with output := world.output ++ text }

namespace Run

/- Do something with the files of the world. -/
def onDisk
    {α : Type}
    (act : Disk α) : Run α :=
  fun world =>
    let (result, tree) := act world.tree
    (result, { world with tree := tree })

/- Write text to the output. -/
def print
    (text : Text) : Run Unit :=
  modify fun world => world.print text

/- Write text to the error stream. -/
def complain
    (text : Text) : Run Unit :=
  modify fun world => world.complain text

end Run

end Joinery
