import Joinery.Encoding.Utf8
import Joinery.FileTree.Basic

/-
  This file writes files so that nobody sees them half
  written: first a temporary file beside the target, which
  then takes its place.

  Key definitions include:
    * `Disk.temporary`
    * `Disk.writeAtomically`
    * `Disk.writeTextAtomically`
-/

namespace Joinery

namespace Disk

/- The suffix of temporary files, unless another one is asked for. -/
def temporarySuffix : String := ".tmp"

/- The path of the temporary file beside a target. -/
def temporary
    (path : Path)
    (added : Text) : Outcome Path :=
  path.withSuffix (path.suffix ++ added)

/-
  Undo an attempt to write. If the temporary file cannot be
  taken away, that is what is reported.
-/
def undo
    (path temporary : Path)
    (fault : Fault) : Disk Unit := do
  if ← exists? temporary then remove temporary
  throw (.writeFailed path.text fault.message)

/-
  Write a file in one piece. The directories that lead to it
  are made first.
-/
def writeAtomically
    (path : Path)
    (bytes : List UInt8)
    (added : Text) : Disk Unit := do
  makeDirectory path.parent
  let temporary ← liftM (temporary path added)
  let attempt : Disk Unit := do
    create temporary bytes
    rename temporary path
  tryCatch attempt fun fault =>
    if fault.family.isSystem then undo path temporary fault
    else throw fault

/- Write a text in one piece, in an encoding that must have all of it. -/
def writeTextAtomically
    (path : Path)
    (text : Text)
    (encoding : String) : Disk Unit := do
  match Encoding.encode? encoding text with
  | some bytes => writeAtomically path bytes temporarySuffix
  | none => throw (.notEncodable encoding)

end Disk

end Joinery
