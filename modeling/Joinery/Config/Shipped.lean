import Joinery.Encoding.Utf8
import Joinery.FileTree.Basic

/-
  This file holds the job that is cut when no job file is
  named. It lies in the tree of files like any other job.

  Key definitions include:
    * `Shipped.path`
    * `Shipped.text`
    * `FileTree.withShipped`
-/

namespace Joinery

namespace Shipped

/- The place of the directory that holds the shipped job. -/
def place : Location :=
  ["usr", "share", "cut-dado"]

/- The name of the shipped job file. -/
def name : Text := "dado.yaml"

/- The path of the directory that holds the shipped job. -/
def directory : Path :=
  ⟨"/", place⟩

/- The path of the shipped job file. -/
def path : Path :=
  ⟨"/", place ++ [name]⟩

/- The lines of the shipped job file. -/
def lines : List String :=
  [ "joint:",
    "  plate_thickness: 4.2 mm     # Z-probe touch plate",
    "  retract_height: 5 mm        # Z after probing",
    "  stock_thickness: 0.5 in     # the dado is half as wide",
    "  cutter_diameter: 0.125 in",
    "  work_offset_x: 20 mm",
    "  pass_length: 6 in           # dado length along Y",
    "",
    "machine:",
    "  retract_feed: 300",
    "  depth_tolerance: 0.001      # mm",
    "",
    "logging:",
    "  level: INFO",
    "  json: false" ]

/- The text of the shipped job file. -/
def text : String :=
  String.join (lines.map (· ++ "\n"))

end Shipped

/- A tree that has the shipped job file. -/
def FileTree.withShipped
    (tree : FileTree) : FileTree :=
  tree.withFile (Shipped.place ++ [Shipped.name])
    (Encoding.utf8 Shipped.text)

end Joinery
