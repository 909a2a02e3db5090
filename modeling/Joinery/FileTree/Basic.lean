import Joinery.Encoding.FileName
import Joinery.FileTree.Path

/-
  This file defines trees of files and directories, and the
  elementary operations on them.

  A file is an entry of the tree that refers to contents;
  the contents stay the same while the entry is moved, and
  remain when the entry goes.

  Key definitions include:
    * `FileTree`
    * `FileTree.locate`
    * `FileTree.withFile`
    * `Disk`
    * `Disk.makeDirectory`
    * `Disk.create`
    * `Disk.openFile`
    * `Disk.rename`
    * `Disk.remove`
    * `FileTree.listing`
-/

namespace Joinery

------------------------------------------------------------
-- Trees
------------------------------------------------------------

/-
  The way from the root to a place, name by name. The names
  are written as the file system shows them.
-/
abbrev Location :=
  List Text

/- What is at a place: a directory, or a file with contents. -/
inductive Entry where
  | directory
  | file
      (serial : Nat)
  deriving DecidableEq, Repr

/-
  A tree: the working directory, what is at each place, the
  contents of the files by their serial numbers, and the
  directories of file systems that can only be read. The
  root is always a directory.
-/
structure FileTree where
  home : Location
  entries : List (Location × Entry) := []
  contents : List (Nat × List UInt8) := []
  readOnly : List Location := []
  deriving Repr

namespace FileTree

/- What is at a place, if anything is. -/
def entry?
    (tree : FileTree)
    (place : Location) : Option Entry :=
  if place = [] then some .directory else tree.entries.lookup place

/- The contents of a file. -/
def bytes
    (tree : FileTree)
    (serial : Nat) : List UInt8 :=
  (tree.contents.lookup serial).getD []

/- A serial number that no contents have. -/
def freshSerial
    (tree : FileTree) : Nat :=
  tree.contents.foldl (fun n c => max n (c.1 + 1)) 0

/- Put an entry at a place. -/
def put
    (tree : FileTree)
    (place : Location)
    (entry : Entry) : FileTree :=
  { tree with
    entries :=
      (place, entry) :: tree.entries.filter fun e => e.1 ≠ place }

/- Take the entry at a place away. -/
def drop
    (tree : FileTree)
    (place : Location) : FileTree :=
  { tree with entries := tree.entries.filter fun e => e.1 ≠ place }

/- Set the contents of a file. -/
def write
    (tree : FileTree)
    (serial : Nat)
    (bytes : List UInt8) : FileTree :=
  { tree with
    contents :=
      (serial, bytes) :: tree.contents.filter fun c => c.1 ≠ serial }

/- Add to the contents of a file. -/
def append
    (tree : FileTree)
    (serial : Nat)
    (bytes : List UInt8) : FileTree :=
  tree.write serial (tree.bytes serial ++ bytes)

/- What is at a place, or would be there, cannot be changed. -/
def isReadOnly
    (tree : FileTree)
    (place : Location) : Bool :=
  tree.readOnly.contains place.dropLast

/- The bytes of the file at a place. -/
def read?
    (tree : FileTree)
    (place : Location) : Option (List UInt8) :=
  match tree.entry? place with
  | some (.file serial) => some (tree.bytes serial)
  | _ => none

------------------------------------------------------------
-- Locating
------------------------------------------------------------

/- The longest name of a file, in bytes. -/
def longestName : Nat := 255

/- The longest text of a path, in bytes. -/
def longestPath : Nat := 4095

/- How many bytes the file system sees of a name. -/
def byteCount
    (name : Text) : Nat :=
  ((Encoding.fileName? name).getD []).length

/- A name as the file system shows it. -/
def shownName
    (name : Text) : Text :=
  (Encoding.asFileName? name).getD name

/-
  Go from a place along the parts of a path. Every part but
  the last must be a directory; the last need not exist.
-/
def walk
    (tree : FileTree)
    (place : Location) : List Text → Except FileFault Location
  | [] => .ok place
  | part :: rest =>
      match tree.entry? place with
      | none => .error .missing
      | some (.file _) => .error .notDirectory
      | some .directory =>
          if part = ".." then tree.walk place.dropLast rest
          else if longestName < byteCount part then
            .error .nameTooLong
          else tree.walk (place ++ [shownName part]) rest

/- The place that a path leads to. -/
def locate
    (tree : FileTree)
    (path : Path) : Except FileFault Location :=
  if longestPath < byteCount path.text then .error .nameTooLong
  else
    tree.walk (if path.root = "" then tree.home else []) path.parts

------------------------------------------------------------
-- Filling
------------------------------------------------------------

/- All places on the way to a place, the nearest to the root first. -/
def waysTo
    (place : Location) : List Location :=
  (List.range (place.length + 1)).map place.take

/- A tree in which the directories that lead to a place exist. -/
def withDirectory
    (tree : FileTree)
    (place : Location) : FileTree :=
  (waysTo place).foldl
    (fun t p =>
      if p = [] ∨ (t.entry? p).isSome then t else t.put p .directory)
    tree

/- A tree with a file at a place. -/
def withFile
    (tree : FileTree)
    (place : Location)
    (bytes : List UInt8) : FileTree :=
  let serial := tree.freshSerial
  ((tree.withDirectory place.dropLast).put place (.file serial)).write
    serial bytes

------------------------------------------------------------
-- Listing
------------------------------------------------------------

/- The entries below the working directory, as paths relative to it. -/
def listing
    (tree : FileTree) : List (Text × Option (List UInt8)) :=
  let below := tree.entries.filterMap fun (place, entry) =>
    if tree.home.isPrefixOf place ∧ place ≠ tree.home then
      some
        (Text.joined "/" (place.drop tree.home.length),
          match entry with
          | .directory => none
          | .file serial => some (tree.bytes serial))
    else none
  below.mergeSort fun a b => !b.1.precedes a.1

end FileTree

------------------------------------------------------------
-- Operations
------------------------------------------------------------

/- An operation on a tree of files. -/
abbrev Disk :=
  ExceptT Fault (StateM FileTree)

namespace Disk

/- Fail with a fault of the file system about a path. -/
def refuse
    {α : Type}
    (path : Path)
    (fault : FileFault) : Disk α :=
  throw (.file fault path.text none)

/- What keeps a path from naming anything, whatever files there are. -/
def flaw?
    (path : Path) : Option Fault :=
  if (Encoding.fileName? path.text).isNone then
    some (.notEncodable Encoding.ofFiles)
  else if path.text.letters.contains (.char '\x00') then
    some .nullInPath
  else none

/- The place that a path leads to. -/
def locate
    (path : Path) : Disk Location := do
  if let some fault := flaw? path then throw fault
  match (← get).locate path with
  | .ok place => return place
  | .error fault => refuse path fault

/- What a path leads to, if that exists. -/
def status?
    (path : Path) : Disk (Option Entry) := do
  if (flaw? path).isSome then return none
  let tree ← get
  match tree.locate path with
  | .ok place => return tree.entry? place
  | .error .nameTooLong => refuse path .nameTooLong
  | .error _ => return none

/- A path leads to something. -/
def exists?
    (path : Path) : Disk Bool := do
  return (← status? path).isSome

/- A path leads to a directory. -/
def isDirectory?
    (path : Path) : Disk Bool := do
  return (← status? path) = some .directory

/- Make a directory in a directory. -/
def makeOne
    (path : Path) : Disk Unit := do
  let place ← locate path
  let tree ← get
  if (tree.entry? place).isSome then refuse path .exists
  else if tree.entry? place.dropLast ≠ some .directory then
    refuse path .missing
  else if tree.isReadOnly place then refuse path .readOnly
  else set (tree.put place .directory)

/- A directory that exists is as good as one just made. -/
def makeOrAccept
    (path : Path) : Disk Unit :=
  tryCatch (makeOne path) fun fault => do
    if !(fault.family.isSystem && (← isDirectory? path)) then
      throw fault

/-
  Make a directory, given by its parts from the last to the
  first. Where the directory around it is missing, that is
  made before.
-/
def makeParents
    (root : String) : List Text → Disk Unit
  | [] => makeOrAccept ⟨root, []⟩
  | part :: outer =>
      let path : Path := ⟨root, (part :: outer).reverse⟩
      tryCatch (makeOrAccept path) fun fault =>
        if fault.family = .missingFile then do
          makeParents root outer
          makeOrAccept path
        else throw fault

/- Make sure that a directory exists. -/
def makeDirectory
    (path : Path) : Disk Unit :=
  makeParents path.root path.parts.reverse

/- The file at a path, to be written to; made if there is none. -/
def openFile
    (path : Path) : Disk Nat := do
  let place ← locate path
  let tree ← get
  match tree.entry? place with
  | some .directory => refuse path .isDirectory
  | some (.file serial) =>
      if tree.isReadOnly place then refuse path .readOnly
      return serial
  | none =>
      if tree.entry? place.dropLast ≠ some .directory then
        refuse path .missing
      if tree.isReadOnly place then refuse path .readOnly
      let serial := tree.freshSerial
      set ((tree.put place (.file serial)).write serial [])
      return serial

/- Write a file from its beginning. -/
def create
    (path : Path)
    (bytes : List UInt8) : Disk Unit := do
  let serial ← openFile path
  modify fun tree => tree.write serial bytes

/- The bytes of the file at a path. -/
def read
    (path : Path) : Disk (List UInt8) := do
  let place ← locate path
  let tree ← get
  match tree.entry? place with
  | some .directory => refuse path .isDirectory
  | some (.file serial) => return tree.bytes serial
  | none => refuse path .missing

/- Move a file to another path, in place of the file that is there. -/
def rename
    (source target : Path) : Disk Unit := do
  let stop (fault : FileFault) : Disk Unit :=
    throw (.file fault source.text (some target.text))
  let tree ← get
  match tree.locate source, tree.locate target with
  | .error fault, _ => stop fault
  | _, .error fault => stop fault
  | .ok start, .ok finish =>
      if tree.isReadOnly start || tree.isReadOnly finish then
        stop .readOnly
      else
        match tree.entry? start with
        | none => stop .missing
        | some entry =>
            if start = finish then return
            else if tree.entry? finish = some .directory then
              stop .isDirectory
            else if tree.entry? finish.dropLast ≠ some .directory then
              stop .missing
            else set ((tree.drop start).put finish entry)

/- Take the file at a path away. -/
def remove
    (path : Path) : Disk Unit := do
  let place ← locate path
  let tree ← get
  if tree.isReadOnly place then refuse path .readOnly
  else
    match tree.entry? place with
    | none => refuse path .missing
    | some .directory => refuse path .isDirectory
    | some (.file _) => set (tree.drop place)

end Disk

end Joinery
