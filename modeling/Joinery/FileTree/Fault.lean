import Joinery.Text.Quoted

/-
  This file names the reasons for which the file system
  refuses an operation.

  Key definitions include:
    * `FileFault`
    * `FileFault.message`
-/

namespace Joinery

/- Why an operation on files failed. -/
inductive FileFault where
  | missing
  | exists
  | notDirectory
  | isDirectory
  | nameTooLong
  | busy
  | readOnly
  deriving DecidableEq, Repr

namespace FileFault

/- The number and the wording of a file fault. -/
def wording : FileFault → String
  | .missing => "[Errno 2] No such file or directory"
  | .exists => "[Errno 17] File exists"
  | .notDirectory => "[Errno 20] Not a directory"
  | .isDirectory => "[Errno 21] Is a directory"
  | .nameTooLong => "[Errno 36] File name too long"
  | .busy => "[Errno 16] Device or resource busy"
  | .readOnly => "[Errno 30] Read-only file system"

/- The message about an operation on one path, or from one to another. -/
def message
    (fault : FileFault)
    (path : Text)
    (target : Option Text) : String :=
  fault.wording ++ ": " ++ Text.quoted path ++
    (match target with
      | some goal => " -> " ++ Text.quoted goal
      | none => "")

end FileFault

end Joinery
