import Std.Time.DateTime.Timestamp
import Joinery.Command.Cut
import Joinery.Yaml.Value

/-
  This file runs the command on the real files.

  Only the places that a run can visit are looked at: those
  on the ways to the job file, to the file to write, and to
  the log file. What a run has changed is written back.

  Key definitions include:
    * `visited`
    * `look`
    * `settle`
    * `main`
-/

namespace Joinery

namespace Terminal

------------------------------------------------------------
-- Places
------------------------------------------------------------

/- The places that are visited from a place along parts of a path. -/
def visitedFrom
    (place : Location) : List Text → List Location
  | [] => [place]
  | part :: rest =>
      place ::
        visitedFrom
          (if part = ".." then place.dropLast else place ++ [part])
          rest

/- The places that are visited along a path. -/
def visited
    (home : Location)
    (path : Path) : List Location :=
  visitedFrom [] (if path.root = "" then home ++ path.parts else path.parts)

/- The paths that a command line names. -/
def namedPaths
    (arguments : Command.Arguments) : List Path :=
  let source := (Command.jobPath arguments.config).toOption
  let target := arguments.output.map Path.ofText
  let draft := target.bind fun path =>
    (Disk.temporary path Disk.temporarySuffix).toOption
  source.toList ++ target.toList ++ draft.toList

/- The paths of the log file that the job asks for. -/
def logPaths
    (tree : FileTree)
    (arguments : Command.Arguments) : List Path :=
  let found := do
    let source ← (Command.jobPath arguments.config).toOption
    let job ← (Disk.loadJob Yaml.load source tree).1.toOption
    let name ← job.logging.file
    return [Path.ofText name, (Path.ofText name).flattened tree.home]
  found.getD []

/- The path to a place, if it consists of characters. -/
def placeText?
    (place : Location) : Option String := do
  let names ← place.mapM Text.string?
  return "/" ++ String.intercalate "/" names

------------------------------------------------------------
-- Reading And Writing
------------------------------------------------------------

/- Where the output is to be found among the files. -/
def outletPlace : Location := ["dev", "stdout"]

/- A tree with what is really at a place. The output cannot be read. -/
def look
    (tree : FileTree)
    (place : Location) : IO FileTree := do
  match placeText? place with
  | none => return tree
  | some name =>
      let file := (← IO.currentDir) / name
      if (tree.entry? place).isSome then return tree
      else if ← file.isDir then return tree.put place .directory
      else if place = outletPlace then return tree.withFile place []
      else if ← file.pathExists then
        let bytes ← IO.FS.readBinFile file
        return tree.withFile place bytes.toList
      else return tree

/- A tree with what is really at the places along paths. -/
def lookAlong
    (tree : FileTree)
    (paths : List Path) : IO FileTree :=
  (paths.flatMap (visited tree.home)).foldlM look tree

/- Put bytes into a real file, in one piece. -/
def replace
    (target : String)
    (bytes : List UInt8) : IO Unit := do
  let draft := target ++ Disk.temporarySuffix
  IO.FS.writeBinFile draft ⟨bytes.toArray⟩
  IO.FS.rename draft target

/- The entries of a tree that have a real path, the nearest ones first. -/
def outward
    (tree : FileTree) : List (Location × Entry × String) :=
  let named := tree.entries.filterMap fun (place, entry) =>
    (placeText? place).map fun name => (place, entry, name)
  named.mergeSort fun a b => a.1.length ≤ b.1.length

/- Change the real files as a run has changed the tree. -/
def settle
    (before after : FileTree) : IO Unit := do
  for (place, entry, name) in outward after do
    match entry with
    | .directory =>
        if (before.entry? place).isNone then IO.FS.createDir name
    | .file serial =>
        if before.read? place ≠ some (after.bytes serial) then
          replace name (after.bytes serial)
  for (place, _, name) in outward before do
    if (after.entry? place).isNone then IO.FS.removeFile name

------------------------------------------------------------
-- Running
------------------------------------------------------------

/- The time, in seconds since 1970. -/
def now : IO Float := do
  let time ← Std.Time.Timestamp.now
  let nanoseconds : Rat := time.toNanosecondsSinceUnixEpoch.val
  return Decimal.nearestDouble (nanoseconds / 1000000000)

/- The number of the process, if the system tells it. -/
def processNumber : IO UInt32 := do
  try
    let line ← IO.FS.readFile "/proc/self/stat"
    return .ofNat (Decimal.naturalOf (line.toList.takeWhile Char.isDigit))
  catch _ => return 1

/- The number of the file that is the output, if it has been looked at. -/
def outlet?
    (tree : FileTree) : Option Nat :=
  match tree.entry? outletPlace with
  | some (.file serial) => some serial
  | _ => none

/- A text as it is written to a terminal. -/
def written
    (t : Text) : String :=
  String.ofList t.chars

/- The files that a command line has to do with. -/
def surroundings
    (texts : List Text) : IO FileTree := do
  let home := (Path.ofText (← IO.currentDir).toString).parts
  let start : FileTree := { home := home }
  let tree ← lookAlong start [⟨"", []⟩]
  match Command.Request.ofTexts texts with
  | .ok (.run arguments) =>
      let near ← lookAlong tree (namedPaths arguments)
      let shipped := near.withShipped
      lookAlong shipped (logPaths shipped arguments)
  | _ => return tree

/- Run the command, and give its exit code. -/
def run
    (texts : List Text) : IO UInt32 := do
  let tree ← surroundings texts
  let terminal ← (← IO.getStderr).isTty
  let world : World := {
    tree := tree
    terminal := terminal
    now := ← now
    process := ← processNumber
    outlet := outlet? tree
    trace := some fun _ fault => fault.message ++ "\n" }
  let (result, after) := Command.run Yaml.load texts world
  settle tree after.tree
  (← IO.getStdout).putStr (written after.output)
  (← IO.getStderr).putStr (written after.errors)
  match result with
  | .ok code => return code.toUInt32
  | .error fault =>
      (← IO.getStderr).putStrLn (written fault.message)
      return 1

end Terminal

end Joinery

def main
    (args : List String) : IO UInt32 :=
  Joinery.Terminal.run (args.map Joinery.Text.ofString)
