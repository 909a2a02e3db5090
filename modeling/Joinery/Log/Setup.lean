import Joinery.Log.Writing
import Joinery.Text.UpperCase

/-
  This file sets logging up: the level, a handler for the
  console, a handler for a file, and a first context.

  Key definitions include:
    * `LogSetup`
    * `Level.ofValue`
    * `Run.setUpLog`
-/

namespace Joinery

/- What is asked of a setup. -/
structure LogSetup where
  level : Value := .text "INFO"
  file : Value := .null
  json : Bool := false
  colour : Bool := true
  console : Bool := true
  context : Named := []

/- The number of the level that a value names, in any case. -/
def Level.ofValue
    (v : Value) : Outcome Int :=
  match v.text? with
  | none => fail (.noAttribute v.kind "upper")
  | some t =>
      match Level.number? t.upperCase with
      | some n => .ok n
      | none => fail (.unknownLogLevel v.plain)

/- The path that a value names. -/
def Path.ofValue
    (v : Value) : Outcome Path :=
  match v.text? with
  | none => fail (.notPath v.kind)
  | some t => .ok (Path.ofText t)

namespace Run

/- Change the state of logging. -/
def onLog
    (change : Logbook → Logbook) : Run Unit :=
  modify fun world => { world with log := change world.log }

/- Install a handler for the console. Colours are for terminals only. -/
def attachConsole
    (setup : LogSetup) : Run Unit := do
  let colour := setup.colour && (← get).terminal
  onLog fun book => book.attach ⟨.console, ⟨setup.json, colour⟩⟩

/- Install a handler that adds to a file; its directory is made first. -/
def attachFile
    (setup : LogSetup) : Run Unit := do
  let path ← liftM (Path.ofValue setup.file)
  onDisk (Disk.makeDirectory path.parent)
  let home := (← get).tree.home
  let serial ← onDisk (Disk.openFile (path.flattened home))
  onLog fun book => book.attach ⟨.file serial, ⟨setup.json, false⟩⟩

/-
  Set logging up. An unknown level changes nothing; after
  that, every step stays done even if a later one fails.
-/
def setUpLog
    (setup : LogSetup) : Run Unit := do
  let level ← liftM (Level.ofValue setup.level)
  onLog fun book => book.clear level
  if setup.console then attachConsole setup
  if setup.file.truthy then attachFile setup
  onLog fun book => book.push setup.context

end Run

end Joinery
