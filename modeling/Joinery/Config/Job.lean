import Joinery.Config.Quantity
import Joinery.Dado.Joint
import Joinery.Log.Level
import Joinery.Text.UpperCase
import Joinery.Value.Order

/-
  This file makes jobs of the values that job files hold.

  Key definitions include:
    * `LogOptions`
    * `Job`
    * `readDouble`
    * `Joint.ofValue`
    * `Settings.ofEntries`
    * `LogOptions.ofEntries`
    * `Job.check`
    * `Job.ofValue`
-/

namespace Joinery

------------------------------------------------------------
-- Jobs
------------------------------------------------------------

/- What a job file says about logging. -/
structure LogOptions where
  level : Text
  json : Bool
  file : Option Text

/- A complete job: the joint, the machine, and logging. -/
structure Job where
  joint : Joint
  settings : Settings
  logging : LogOptions

------------------------------------------------------------
-- The Joint
------------------------------------------------------------

/- The keys of a mapping that are not among the given names. -/
def otherKeys
    (entries : Entries)
    (names : List Text) : List Value :=
  (entries.map (·.1)).filter fun key =>
    !names.any fun name => key.equals (.text name)

/-
  Every parameter must be given, and nothing else. Which
  ones are missing is said before which ones are unknown.
-/
def checkParameters
    (entries : Entries) : Outcome Unit := do
  let missing :=
    Joint.names.filter fun name => (entries.get? name).isNone
  if missing ≠ [] then fail (.config (.missingParameters missing))
  let unknown ← Value.sorted (otherKeys entries Joint.names)
  if !unknown.isEmpty then
    let names ← Value.textsFrom 0 unknown
    fail (.config (.unknownParameters names))

/- The measure under a name that is known to be present. -/
def parameter
    (entries : Entries)
    (name : Text) : Outcome Value :=
  readMeasure name ((entries.get? name).getD .null)

/- The joint of a job, its measures read in order. -/
def Joint.ofValue
    (data : Value) : Outcome Joint :=
  match data.opened with
  | .dict entries => do
      checkParameters entries
      let read := parameter entries
      Joint.make {
        plateThickness := ← read "plate_thickness"
        retractHeight := ← read "retract_height"
        stockThickness := ← read "stock_thickness"
        cutterDiameter := ← read "cutter_diameter"
        workOffsetX := ← read "work_offset_x"
        passLength := ← read "pass_length" }
  | _ => fail (.config (.jointNotMapping data))

------------------------------------------------------------
-- The Other Sections
------------------------------------------------------------

/- The character that a byte is read as; only ASCII has one. -/
def byteChar
    (b : UInt8) : Char :=
  if b < 0x80 then Char.ofNat b.toNat else Letter.replacement

/- The double that a value denotes, as a number or as text. -/
def readDouble
    (v : Value) : Outcome Float :=
  match v.number? with
  | some n => n.toDouble
  | none =>
      let text :=
        match v with
        | .bytes bs => some (bs.map byteChar)
        | _ => v.text?.map Text.chars
      match text with
      | none => fail (.notNumeral v.fullKind)
      | some cs =>
          match Decimal.readDouble? cs with
          | some x => .ok x
          | none => fail (.badNumeral v)

/- A section that may be missing or empty, and is a mapping otherwise. -/
def section?
    (data : Entries)
    (name : Text) : Outcome Entries :=
  let raw := (data.get? name).getD .null
  if raw.truthy then
    match raw.opened with
    | .dict entries => .ok entries
    | _ => fail (.noAttribute raw.fullKind "get")
  else .ok []

/- The machine settings of a job; both are doubles. -/
def Settings.ofEntries
    (entries : Entries) : Outcome Settings := do
  let feed ← readDouble
    ((entries.get? "retract_feed").getD standard.retractFeed)
  let tolerance ← readDouble
    ((entries.get? "depth_tolerance").getD standard.depthTolerance)
  Settings.make (.float feed) (.float tolerance)

/- The logging options of a job. -/
def LogOptions.ofEntries
    (entries : Entries) : Outcome LogOptions := do
  let raw ← ((entries.get? "level").getD (.text "INFO")).written
  let level := raw.upperCase
  if (Level.number? level).isNone then
    fail (.config (.unknownLevel level))
  let file ← match entries.get? "file" with
    | some v => if v.truthy then v.written.map some else .ok none
    | none => .ok none
  return {
    level := level
    json := ((entries.get? "json").map Value.truthy).getD false
    file := file }

------------------------------------------------------------
-- Checks
------------------------------------------------------------

/- The amount of a measure, or the bare number that it is. -/
def amountOf : Value → Value
  | .quantity _ amount => amount
  | v => v

/- A measure of a joint whose amount must be above zero. -/
def checkPositive
    (name : String)
    (measure : Value) : Outcome Unit := do
  if ← (amountOf measure).atMostZero then
    fail (.config (.notPositive name measure))

/- The stock, the length, and the cutter must be positive. -/
def Job.check
    (job : Job) : Outcome Unit := do
  checkPositive "stock_thickness" job.joint.stockThickness
  checkPositive "pass_length" job.joint.passLength
  checkPositive "cutter_diameter" job.joint.cutterDiameter

------------------------------------------------------------
-- Reading A Job
------------------------------------------------------------

/-
  Faults of kind and value inside a job file are reported as
  faults of the job file.
-/
def asConfigFault
    (fault : Fault) : Fault :=
  match fault.family with
  | .kind => .config (.invalidValue fault.message)
  | .member => .config (.invalidValue fault.message)
  | family =>
      if family.isValue then .config (.invalidValue fault.message)
      else fault

/- The job that the top mapping of a job file describes. -/
def Job.ofEntries
    (data : Entries) : Outcome Job := do
  let joint ← match data.get? "joint" with
    | some v => Joint.ofValue v
    | none => fail (.config (.missingKey "joint"))
  let settings ← Settings.ofEntries (← section? data "machine")
  let logging ← LogOptions.ofEntries (← section? data "logging")
  let job : Job := ⟨joint, settings, logging⟩
  job.check
  return job

/- The job that the content of a job file describes. -/
def Job.ofValue
    (path : Text)
    (data : Value) : Outcome Job :=
  match data.opened with
  | .null => fail (.config (.empty path))
  | .dict entries => (Job.ofEntries entries).mapError asConfigFault
  | _ => fail (.config (.notMapping path))

end Joinery
