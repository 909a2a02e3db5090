import Joinery.Proofs.FileTree.Contents
import Joinery.Proofs.FileTree.Places

/-
  What is seen at a place of a tree: nothing, a directory, or
  a file with its bytes. Directories that are made are seen
  where nothing was, on the way to where they are asked for,
  and nothing else changes.

  Key definitions include:
    * `FileTree.Sight`
    * `FileTree.sight`
    * `FileTree.IsTree`
    * `FileTree.AddsDirectories`
    * `FileTree.IsOnWay`

  Key theorems include:
    * `FileTree.IsTree.withFile`
    * `FileTree.AddsDirectories.sight_cases`
    * `Disk.makeDirectory_adds`
-/

namespace Joinery

namespace FileTree

------------------------------------------------------------
-- Entries
------------------------------------------------------------

theorem entry?_put_self
    {place : Location}
    (hRoot : place ≠ [])
    (tree : FileTree)
    (entry : Entry) :
    FileTree.entry? (tree.put place entry) place = some entry := by
  rw [entry?_put, if_neg hRoot, if_pos rfl]

theorem entry?_put_other
    {place key : Location}
    (hOther : key ≠ place)
    (tree : FileTree)
    (entry : Entry) :
    FileTree.entry? (tree.put place entry) key = tree.entry? key := by
  rw [entry?_put, if_neg hOther]
  split
  · rename_i hRoot
    rw [hRoot]
    rfl
  · rfl

------------------------------------------------------------
-- Sights
------------------------------------------------------------

/- What is seen at a place. -/
inductive Sight where
  | nothing
  | directory
  | file
      (bytes : List UInt8)
  deriving DecidableEq, Repr

/- What is seen at a place of a tree. -/
def sight
    (tree : FileTree)
    (place : Location) : Sight :=
  match tree.entry? place with
  | none => .nothing
  | some .directory => .directory
  | some (.file serial) => .file (tree.bytes serial)

theorem sight_of_none
    {tree : FileTree}
    {place : Location}
    (hEntry : tree.entry? place = none) :
    tree.sight place = .nothing := by
  rw [sight, hEntry]

theorem sight_of_file
    {tree : FileTree}
    {place : Location}
    {serial : Nat}
    (hEntry : tree.entry? place = some (.file serial)) :
    tree.sight place = .file (tree.bytes serial) := by
  rw [sight, hEntry]

theorem exists_file_of_sight
    {tree : FileTree}
    {place : Location}
    {bytes : List UInt8}
    (hSight : tree.sight place = .file bytes) :
    ∃ serial, tree.entry? place = some (.file serial) := by
  unfold sight at hSight
  split at hSight
  · cases hSight
  · cases hSight
  · rename_i serial hEntry
    exact ⟨serial, hEntry⟩

theorem sight_eq_directory_iff
    {tree : FileTree}
    {place : Location} :
    tree.sight place = .directory ↔
      tree.entry? place = some .directory := by
  unfold sight
  split
  · simp_all
  · simp_all
  · simp_all

/- A place looks the same where the entry and the contents are the same. -/
theorem sight_congr
    {tree later : FileTree}
    {place : Location}
    (hEntry : later.entry? place = tree.entry? place)
    (hBytes :
      ∀ serial, tree.entry? place = some (.file serial) →
        later.bytes serial = tree.bytes serial) :
    later.sight place = tree.sight place := by
  unfold sight
  rw [hEntry]
  cases hFound : tree.entry? place with
  | none => rfl
  | some entry =>
      cases entry with
      | directory => rfl
      | file serial => exact congrArg Sight.file (hBytes serial hFound)

------------------------------------------------------------
-- Trees Of Separate Files
------------------------------------------------------------

/- Every file is at one place only, and has contents. -/
structure IsTree
    (tree : FileTree) : Prop where
  sound : tree.IsSound
  single :
    ∀ place other serial, tree.entry? place = some (.file serial) →
      tree.entry? other = some (.file serial) → place = other

namespace IsTree

variable {tree : FileTree}

theorem putDirectory
    (hTree : tree.IsTree)
    (place : Location) :
    IsTree (tree.put place .directory) where
  sound := hTree.sound.putDirectory place
  single := fun first second serial hFirst hSecond =>
    hTree.single first second serial (entry?_of_putDirectory hFirst)
      (entry?_of_putDirectory hSecond)

/- A tree without entries is one. -/
theorem empty
    (home : Location)
    (contents : List (Nat × List UInt8)) :
    IsTree { home := home, contents := contents } := by
  have hNone :
      ∀ place serial,
        FileTree.entry? { home := home, contents := contents } place ≠
          some (.file serial) := by
    intro place serial
    unfold entry?
    split <;> simp
  exact ⟨fun place serial hEntry => absurd hEntry (hNone place serial),
    fun place _ serial hEntry => absurd hEntry (hNone place serial)⟩

theorem withDirectory
    (hTree : tree.IsTree)
    (place : Location) :
    IsTree (tree.withDirectory place) := by
  refine List.foldlRecOn (waysTo place) _ hTree ?_
  intro later hLater way _
  split
  · exact hLater
  · exact hLater.putDirectory way

/- A new file is put at one place. -/
theorem putFile
    (hTree : tree.IsTree)
    (place : Location)
    (bytes : List UInt8) :
    IsTree
      ((tree.put place (.file tree.freshSerial)).write
        tree.freshSerial bytes) := by
  have hEntry :
      ∀ key serial,
        FileTree.entry? (tree.put place (.file tree.freshSerial)) key =
            some (.file serial) →
          (key = place ∧ serial = tree.freshSerial) ∨
            (tree.entry? key = some (.file serial) ∧
              serial < tree.freshSerial) := by
    intro key serial hFile
    rw [entry?_put] at hFile
    split at hFile
    · cases hFile
    · split at hFile
      · rename_i hPlace
        cases hFile
        exact Or.inl ⟨hPlace, rfl⟩
      · exact Or.inr ⟨hFile, hTree.sound key serial hFile⟩
  constructor
  case sound =>
    intro key serial hFile
    rw [freshSerial_write]
    rcases hEntry key serial hFile with ⟨-, rfl⟩ | ⟨-, hUsed⟩
    · exact lt_max_of_lt_right (Nat.lt_succ_self _)
    · exact lt_max_of_lt_left hUsed
  case single =>
    intro first second serial hFirst hSecond
    rcases hEntry first serial hFirst with ⟨rfl, rfl⟩ | ⟨hFirst, hUsed⟩
    · rcases hEntry second _ hSecond with ⟨rfl, -⟩ | ⟨-, hUsed⟩
      · rfl
      · exact absurd hUsed (lt_irrefl _)
    · rcases hEntry second serial hSecond with ⟨-, rfl⟩ | ⟨hSecond, -⟩
      · exact absurd hUsed (lt_irrefl _)
      · exact hTree.single first second serial hFirst hSecond

theorem withFile
    (hTree : tree.IsTree)
    (place : Location)
    (bytes : List UInt8) :
    IsTree (tree.withFile place bytes) := by
  have hFresh :
      (tree.withDirectory place.dropLast).freshSerial = tree.freshSerial := by
    refine List.foldlRecOn
      (motive := fun later : FileTree => later.freshSerial = tree.freshSerial)
      (waysTo place.dropLast) _ rfl ?_
    intro later hLater way _
    split
    · exact hLater
    · exact hLater
  have hPut := (hTree.withDirectory place.dropLast).putFile place bytes
  rw [hFresh] at hPut
  exact hPut

end IsTree

------------------------------------------------------------
-- Trees With More Directories
------------------------------------------------------------

/-
  A later tree has more directories at some places, where
  there was nothing before, and is the same otherwise.
-/
structure AddsDirectories
    (places : Location → Prop)
    (tree later : FileTree) : Prop where
  home : later.home = tree.home
  contents : later.contents = tree.contents
  readOnly : later.readOnly = tree.readOnly
  entry :
    ∀ place, later.entry? place = tree.entry? place ∨
      places place ∧ tree.entry? place = none ∧
        later.entry? place = some .directory

namespace AddsDirectories

variable {places : Location → Prop}
variable {tree later last : FileTree}

theorem refl
    (places : Location → Prop)
    (tree : FileTree) :
    AddsDirectories places tree tree :=
  ⟨rfl, rfl, rfl, fun _ => Or.inl rfl⟩

theorem trans
    (hFirst : AddsDirectories places tree later)
    (hSecond : AddsDirectories places later last) :
    AddsDirectories places tree last where
  home := hSecond.home.trans hFirst.home
  contents := hSecond.contents.trans hFirst.contents
  readOnly := hSecond.readOnly.trans hFirst.readOnly
  entry := by
    intro place
    rcases hFirst.entry place with hSame | ⟨hPlace, hNone, hMade⟩
    · rw [← hSame]
      exact hSecond.entry place
    · rcases hSecond.entry place with hKept | ⟨-, hGone, -⟩
      · exact Or.inr ⟨hPlace, hNone, hKept.trans hMade⟩
      · rw [hMade] at hGone
        cases hGone

theorem put
    {place : Location}
    (hPlace : places place)
    (hNone : tree.entry? place = none) :
    AddsDirectories places tree (tree.put place .directory) := by
  refine ⟨rfl, rfl, rfl, fun key => ?_⟩
  by_cases hSame : key = place
  · have hRoot : place ≠ [] := by
      rintro rfl
      cases hNone
    rw [hSame]
    exact Or.inr ⟨hPlace, hNone, entry?_put_self hRoot tree _⟩
  · exact Or.inl (entry?_put_other hSame tree _)

theorem bytes
    (hAdds : AddsDirectories places tree later)
    (serial : Nat) :
    later.bytes serial = tree.bytes serial := by
  rw [FileTree.bytes, FileTree.bytes, hAdds.contents]

theorem isReadOnly_eq
    (hAdds : AddsDirectories places tree later)
    (place : Location) :
    later.isReadOnly place = tree.isReadOnly place := by
  rw [isReadOnly, isReadOnly, hAdds.readOnly]

/- A place looks the same, or a directory is seen where nothing was. -/
theorem sight_cases
    (hAdds : AddsDirectories places tree later)
    (place : Location) :
    later.sight place = tree.sight place ∨
      places place ∧ tree.sight place = .nothing ∧
        later.sight place = .directory := by
  rcases hAdds.entry place with hSame | ⟨hPlace, hNone, hMade⟩
  · exact Or.inl (sight_congr hSame fun serial _ => hAdds.bytes serial)
  · exact Or.inr ⟨hPlace, sight_of_none hNone,
      sight_eq_directory_iff.mpr hMade⟩

/- The files are those that were there before. -/
theorem entry?_of_file
    (hAdds : AddsDirectories places tree later)
    {place : Location}
    {serial : Nat}
    (hFile : later.entry? place = some (.file serial)) :
    tree.entry? place = some (.file serial) := by
  rcases hAdds.entry place with hSame | ⟨-, -, hMade⟩
  · rw [← hSame, hFile]
  · rw [hMade] at hFile
    cases hFile

theorem isTree
    (hAdds : AddsDirectories places tree later)
    (hTree : tree.IsTree) :
    later.IsTree where
  sound := by
    intro place serial hFile
    rw [freshSerial, hAdds.contents]
    exact hTree.sound place serial (hAdds.entry?_of_file hFile)
  single := fun place other serial hFirst hSecond =>
    hTree.single place other serial (hAdds.entry?_of_file hFirst)
      (hAdds.entry?_of_file hSecond)

end AddsDirectories

/- A place is that of a path, or of one that leads on the way to it. -/
def IsOnWay
    (tree : FileTree)
    (path : Path)
    (place : Location) : Prop :=
  ∃ parts, parts <+: path.parts ∧ tree.goal ⟨path.root, parts⟩ = place

end FileTree

namespace Disk

open FileTree

------------------------------------------------------------
-- Directories On The Way
------------------------------------------------------------

/- A directory is added at the place of its path. -/
theorem makeOne_adds
    {places : Location → Prop}
    {base : FileTree}
    {path : Path}
    (hPlace : places (base.goal path)) :
    Maintains (AddsDirectories places base) (makeOne path) := by
  intro tree hAdds
  unfold makeOne
  rcases locate_cases path tree with
    ⟨fault, hFault⟩ | ⟨place, hLeads, hFound⟩
  · rw [Stateful.bind_of_error hFault]
    exact hAdds
  · rw [Stateful.bind_of_ok hFound, Stateful.bind_apply,
      Stateful.get_apply]
    dsimp only
    split
    · exact hAdds
    · rename_i hFree
      split
      · exact hAdds
      · split
        · exact hAdds
        · have hGoal : base.goal path = place :=
            (goal_of_home hAdds.home.symm path).trans
              (goal_of_locate hLeads)
          rw [hGoal] at hPlace
          exact hAdds.trans (.put hPlace (by simpa using hFree))

theorem makeParents_adds
    (root : String)
    (parts : List Text)
    (tree : FileTree) :
    AddsDirectories (tree.IsOnWay ⟨root, parts.reverse⟩) tree
      (makeParents root parts tree).2 := by
  refine makeParents_maintains (fun front hFront => ?_) tree (.refl _ tree)
  exact makeOne_adds ⟨front, hFront, rfl⟩

/- To make a directory adds directories on the way to it. -/
theorem makeDirectory_adds
    (path : Path)
    (tree : FileTree) :
    AddsDirectories (tree.IsOnWay path) tree
      (makeDirectory path tree).2 := by
  have hAdds := makeParents_adds path.root path.parts.reverse tree
  rw [List.reverse_reverse] at hAdds
  exact hAdds

end Disk

end Joinery
