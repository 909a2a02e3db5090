import Joinery.Config.Job
import Joinery.FileTree.Basic

/-
  This file reads documents and jobs from files.

  Documents are in a language that somebody else reads: all
  that is taken from the reader is what it makes of the bytes
  of a file.

  Key definitions include:
    * `YamlReader`
    * `Disk.loadYaml`
    * `Disk.requireJob`
    * `Disk.readJob`
    * `Disk.loadJob`
-/

namespace Joinery

/- A reader of documents: the value that bytes denote, or a fault. -/
abbrev YamlReader :=
  List UInt8 → Outcome Value

namespace Disk

/- The value of the document in a file. -/
def loadYaml
    (reader : YamlReader)
    (path : Path) : Disk Value := do
  if !(← exists? path) then throw (.markupMissing path.text)
  let bytes ← read path
  liftM (reader bytes)

/- A job file must exist. -/
def requireJob
    (path : Path) : Disk Unit := do
  if !(← exists? path) then throw (.configMissing path.text)

/- The job that a file describes. -/
def readJob
    (reader : YamlReader)
    (path : Path) : Disk Job := do
  let data ← loadYaml reader path
  liftM (Job.ofValue path.text data)

/- The job in a file, if the file exists. -/
def loadJob
    (reader : YamlReader)
    (path : Path) : Disk Job := do
  requireJob path
  readJob reader path

end Disk

end Joinery
