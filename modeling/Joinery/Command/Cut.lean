import Joinery.Command.Arguments
import Joinery.Command.Usage
import Joinery.Config.Load
import Joinery.Config.Shipped
import Joinery.Dado.Path
import Joinery.FileTree.Atomic
import Joinery.Gcode.Listing
import Joinery.Gcode.Outline
import Joinery.Log.Setup

/-
  This file defines the command that cuts a dado: it reads a
  job, generates its program, and writes the G-code to the
  output or to a file, telling about it in the log.

  Key definitions include:
    * `readJob`
    * `toolpath`
    * `product`
    * `save`
    * `cutDado`
    * `run`
-/

namespace Joinery

namespace Command

------------------------------------------------------------
-- Loggers
------------------------------------------------------------

/- The logger that tells about job files. -/
def jobLogger : String := "router_control.configs.loader"

/- The logger that tells about conversions. -/
def measureLogger : String := "router_control.units.quantity"

/- The logger that tells about the geometry of cuts. -/
def dadoLogger : String := "router_control.toolpath.dado"

/- The logger that tells about compiled lines. -/
def gcodeLogger : String := "router_control.gcode.compiler"

/- The logger that tells about the run as a whole. -/
def commandLogger : String := "router_control.scripts.cut_dado"

/- Log a detail that only some want to see. -/
def debug
    (logger message : String)
    (args : List Value) : Run Unit :=
  Run.log logger 10 message args

/- Log a step that is done. -/
def info
    (logger message : String)
    (args : List Value) : Run Unit :=
  Run.log logger 20 message args

/- Log a failure of the run. -/
def error
    (message : String)
    (args : List Value) : Run Unit :=
  Run.log commandLogger 40 message args

------------------------------------------------------------
-- Failures
------------------------------------------------------------

/-
  Do something. A fault of a family that is expected here is
  told, and nothing comes of the attempt; any other fault
  goes on.
-/
def attempt
    {α : Type}
    (expected : Family → Bool)
    (tell : Fault → Run Unit)
    (body : Run α) : Run (Option α) :=
  tryCatch (some <$> body) fun fault => do
    if expected fault.family then
      tell fault
      return none
    else throw fault

/- Faults of a job file or of its path. -/
def isJobFault : Family → Bool
  | .config | .missingFile => true
  | _ => false

/- Faults of a program that cannot be generated or compiled. -/
def isPathFault
    (family : Family) : Bool :=
  family.isValue || family.isCompile

/- Faults of a file that cannot be written. -/
def isWriteFault
    (family : Family) : Bool :=
  family.isSystem || family = .runtime

------------------------------------------------------------
-- Jobs
------------------------------------------------------------

/- The path of the job file: the named one, or that of the shipped job. -/
def jobPath : Option Operand → Outcome Path
  | none => .ok Shipped.path
  | some .nothing => fail (.notPath "list")
  | some (.text name) => .ok (Path.ofText name)

/- The job in a file, or the shipped one. -/
def readJob
    (reader : YamlReader)
    (config : Option Operand) : Run Job := do
  let path ← liftM (jobPath config)
  Run.onDisk (Disk.requireJob path)
  info jobLogger "Loading configuration from %s" [.text path.text]
  let job ← Run.onDisk (Disk.readJob reader path)
  info jobLogger "Configuration loaded successfully" []
  return job

------------------------------------------------------------
-- Toolpaths
------------------------------------------------------------

/- The message about the geometry of a cut. -/
def geometryMessage : String :=
  "Dado: width=%.4f bit_radius=%.4f x1=%.4f x2=%.4f passes=%d"

/- The program that cuts a job, in the standard ambient state. -/
def toolpath
    (job : Job) : Run Operation := do
  let ambient : Ambient := { }
  let plain ← liftM (job.joint.converted ambient.unit)
  debug measureLogger "Converted %d quantities to %s"
    [.int Joint.parameters.length, .text ambient.unit.symbol]
  let geometry ← liftM (Geometry.ofJoint job.settings plain)
  debug dadoLogger geometryMessage
    [ geometry.width.toValue, geometry.radius.toValue,
      geometry.x1.toValue, geometry.x2.toValue,
      .int geometry.depths.length ]
  liftM (cut job.settings plain geometry ambient).1

/- Tell how many lines a complete listing has. -/
def finish
    (listing : Listing) : Run Nat := do
  let count ← liftM listing.count
  debug gcodeLogger "Emitted %d lines" [.int count]
  return count

/- Write the lines of a program to the output, as far as there are any. -/
def emit
    (op : Operation) : Run Unit := do
  let listing := Listing.ofProgram { : Ambient }.unit op
  Run.print listing.text
  let count ← finish listing
  info commandLogger "Emitted %d G-code lines" [.int count]

/- The lines of a program as one text, if all can be compiled. -/
def renderText
    (op : Operation) : Run Text := do
  let listing := Listing.ofProgram { : Ambient }.unit op
  let _ ← finish listing
  return listing.text

/- The path of the file to write, if one is named. -/
def target?
    (arguments : Arguments) : Option Text :=
  arguments.output.filter fun name => !name.isEmpty

/-
  Generate the program of a job and write it to the output.
  If it is to go to a file, its text is given instead.
-/
def product
    (arguments : Arguments)
    (job : Job) : Run (Option Text) := do
  let op ← toolpath job
  if arguments.tree then
    let text ←
      liftM (outline { : Ambient }.unit Outline.defaultIndent op)
    Run.print text
    return none
  else if (target? arguments).isNone then
    emit op
    return none
  else
    return some (← renderText op)

------------------------------------------------------------
-- Files
------------------------------------------------------------

/- Write the text of a program to a file; the exit code says how it went. -/
def save
    (target text : Text) : Run Nat := do
  let written ← attempt isWriteFault
    (fun fault =>
      error "Could not write %s: %s"
        [.text target, .text fault.message])
    (Run.onDisk
      (Disk.writeTextAtomically (Path.ofText target) text
        Encoding.ofFiles))
  if written.isNone then return 1
  info commandLogger "Wrote G-code to %s" [.text target]
  return 0

------------------------------------------------------------
-- Runs
------------------------------------------------------------

/- Logging before the job is known. -/
def firstSetup
    (arguments : Arguments) : LogSetup :=
  { level := .text (arguments.logLevel.getD "INFO")
    json := arguments.logJson
    context := [("app", .text name)] }

/- Logging as the job asks for it, unless the command line overrules it. -/
def jobSetup
    (arguments : Arguments)
    (options : LogOptions) : LogSetup :=
  { level := .text (arguments.logLevel.getD options.level)
    file := (options.file.map .text).getD .null
    json := arguments.logJson || options.json }

/- Read a job, generate its program, and write it. Zero means success. -/
def cutDado
    (reader : YamlReader)
    (arguments : Arguments) : Run Nat := do
  Run.setUpLog (firstSetup arguments)
  let job? ← attempt isJobFault
    (fun fault => error "Config error: %s" [.text fault.message])
    (readJob reader arguments.config)
  match job? with
  | none => return 1
  | some job =>
      Run.setUpLog (jobSetup arguments job.logging)
      let made? ← attempt isPathFault
        (fun fault =>
          error "Toolpath generation failed: %s" [.text fault.message])
        (product arguments job)
      match made?, target? arguments with
      | none, _ => return 1
      | some (some text), some target => save target text
      | _, _ => return 0

/- Do what a command line asks for, and give the exit code. -/
def run
    (reader : YamlReader)
    (texts : List Text) : Run Nat :=
  match Request.ofTexts texts with
  | .error fault => do
      Run.complain usage
      Run.complain (name ++ ": error: " ++ fault.message ++ "\n")
      return 2
  | .ok .help => do
      Run.print help
      return 0
  | .ok (.run arguments) => cutDado reader arguments

end Command

end Joinery
