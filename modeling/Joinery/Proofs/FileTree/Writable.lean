import Joinery.Proofs.FileTree.Attempts
import Joinery.Proofs.FileTree.Passable

/-
  A file is written in one piece where nothing is in the way.
  The directories around it can be made, then there is no
  directory in the place of the file or of the temporary one,
  and what is around these can be changed.

  Key definitions include:
    * `FileTree.HasRoom`
    * `FileTree.IsWritable`

  Key theorems include:
    * `Disk.attempt_succeeds`
    * `Disk.writeAtomically_writable`
-/

namespace Joinery

namespace Disk

open FileTree

variable {tree : FileTree}
variable {path : Path}
variable {place : Location}

------------------------------------------------------------
-- Attempts That Succeed
------------------------------------------------------------

/-
  A file is written where a path leads, unless a directory is
  there or nothing can be changed.
-/
theorem create_succeeds
    (hPlace : locate path tree = (.ok place, tree))
    (hFree : tree.entry? place ≠ some .directory)
    (hAround : tree.entry? place.dropLast = some .directory)
    (hWritable : tree.isReadOnly place = false)
    (bytes : List UInt8) :
    (create path bytes tree).1 = .ok ⟨⟩ := by
  unfold create openFile
  rw [Stateful.bind_apply, Stateful.bind_of_ok hPlace,
    Stateful.bind_apply, Stateful.get_apply]
  dsimp only
  cases hEntry : tree.entry? place with
  | none =>
      dsimp only
      rw [if_neg (not_not.mpr hAround), hWritable]
      rfl
  | some entry =>
      cases entry with
      | directory => exact absurd hEntry hFree
      | file serial =>
          dsimp only
          rw [hWritable]
          rfl

/- The file is written, and then it is moved to another path. -/
theorem attempt_succeeds
    {temporary : Path}
    {start finish : Location}
    (hTree : tree.IsTree)
    (hStart : locate temporary tree = (.ok start, tree))
    (hNone : tree.entry? start ≠ some .directory)
    (hBeside : tree.entry? start.dropLast = some .directory)
    (hMovable : tree.isReadOnly start = false)
    (hFinish : locate path tree = (.ok finish, tree))
    (hFree : tree.entry? finish ≠ some .directory)
    (hAround : tree.entry? finish.dropLast = some .directory)
    (hWritable : tree.isReadOnly finish = false)
    (bytes : List UInt8) :
    ∃ later,
      (do
        create temporary bytes
        rename temporary path : Disk Unit) tree = (.ok ⟨⟩, later) := by
  have hCreate := create_succeeds hStart hNone hBeside hMovable bytes
  rcases create_puts hTree temporary bytes with
    ⟨fault, hFailed⟩ | ⟨place, made, hPlace, hMade, -, hPuts⟩
  · rw [hFailed] at hCreate
    cases hCreate
  · rw [hStart] at hPlace
    cases hPlace
    have hKeeps := hPuts.keepsDirectories
    rcases locate_ok_iff.mp hStart with ⟨hStartFlaw, hStartLeads⟩
    rcases locate_ok_iff.mp hFinish with ⟨hFlaw, hLeads⟩
    rcases exists_file_of_sight hPuts.file with ⟨serial, hFile⟩
    have hContent :=
      contentAt?_of_entry hStartFlaw (hKeeps.locate hStartLeads) hFile
    have hFound : locate path made = (.ok finish, made) :=
      locate_ok_iff.mpr ⟨hFlaw, hKeeps.locate hLeads⟩
    -- the temporary file is no directory in the place of the target
    have hStill : made.entry? finish ≠ some .directory := by
      refine sight_eq_directory_iff.not.mp ?_
      by_cases hSame : finish = start
      · rw [hSame, hPuts.file]
        exact nofun
      · rw [hPuts.others finish hSame]
        exact sight_eq_directory_iff.not.mpr hFree
    rcases rename_over hContent (hKeeps.locate hStartLeads)
        ((hKeeps.isReadOnly_eq start).trans hMovable) hFound hStill
        (hKeeps.directory _ hAround)
        ((hKeeps.isReadOnly_eq finish).trans hWritable) with
      ⟨later, hRename, -⟩
    exact ⟨later, by rw [Stateful.bind_of_ok hMade, hRename]⟩

end Disk

namespace FileTree

------------------------------------------------------------
-- Writing
------------------------------------------------------------

variable {tree mid : FileTree}
variable {path : Path}

/-
  A file can be in the place of a target beside a path: the
  target fits, its place can be changed, has no directory and
  will not be one when the directories around the path are
  made.
-/
structure HasRoom
    (tree : FileTree)
    (path target : Path) : Prop where
  fits : target.Fits
  free : tree.entry? (tree.goal target) ≠ some .directory
  writable : tree.isReadOnly (tree.goal target) = false
  apart : ¬ tree.IsOnWay path.parent (tree.goal target)

/-
  A file can be written in one piece: the path has a name, the
  directories around it can be made, and there is room for the
  file and for the temporary one.
-/
structure IsWritable
    (tree : FileTree)
    (path : Path) : Prop where
  name : path.parts ≠ []
  parent : tree.IsPassable path.parent
  target : tree.HasRoom path path
  sibling :
    ∀ temporary,
      Disk.temporary path Disk.temporarySuffix = .ok temporary →
        tree.HasRoom path temporary

/- Once the directories are made, the target can be found in one. -/
theorem HasRoom.found
    {target : Path}
    (hRoom : tree.HasRoom path target)
    {last : Text}
    (hTarget : target = ⟨path.root, path.parts.dropLast ++ [last]⟩)
    (hAdds : AddsDirectories (tree.IsOnWay path.parent) tree mid)
    (hRooted : mid.IsRooted)
    (hParent : (Disk.isDirectory? path.parent mid).1 = .ok true) :
    ∃ place, Disk.locate target mid = (.ok place, mid) ∧
      mid.entry? place ≠ some .directory ∧
      mid.entry? place.dropLast = some .directory ∧
      mid.isReadOnly place = false := by
  rcases Disk.isDirectory?_spec hParent with ⟨-, outer, hOuter, hEntry⟩
  have hFits := hRoom.fits
  rw [hTarget] at hFits
  rcases locate_concat hFits (Disk.locate_ok_iff.mp hOuter).2 hEntry
    with ⟨place, hLeads⟩
  rw [← hTarget] at hLeads
  have hParts : target.parts ≠ [] := by
    rw [hTarget]
    exact List.append_ne_nil_of_right_ne_nil _ (List.cons_ne_nil _ _)
  have hGoal := goal_of_locate hLeads
  rw [goal_of_home hAdds.home] at hGoal
  refine ⟨place, Disk.locate_ok_iff.mpr ⟨hRoom.fits.flaw, hLeads⟩, ?_,
    hRooted.around hParts hLeads, ?_⟩
  case refine_2 =>
    rw [hAdds.isReadOnly_eq, ← hGoal]
    exact hRoom.writable
  rw [← hGoal]
  rcases hAdds.entry (tree.goal target) with hSame | ⟨hPlace, -, -⟩
  · rw [hSame]
    exact hRoom.free
  · exact absurd hPlace hRoom.apart

end FileTree

namespace Disk

open FileTree

/- Where a file can be written in one piece, it is. -/
theorem writeAtomically_writable
    {t : Text}
    {tree : FileTree}
    (hTree : tree.IsTree)
    (hWritable : tree.IsWritable (Path.ofText t))
    (bytes : List UInt8) :
    (writeAtomically (Path.ofText t) bytes temporarySuffix tree).1 =
      .ok ⟨⟩ := by
  have hTemporary := temporary_ofText hWritable.name
  rcases makeDirectory_passable hWritable.parent with
    ⟨mid, hMade, hRooted, hParent⟩
  have hAdds := makeDirectory_adds (Path.ofText t).parent tree
  rw [hMade] at hAdds
  have hPath :
      Path.ofText t =
        ⟨(Path.ofText t).root,
          (Path.ofText t).parts.dropLast ++ [(Path.ofText t).name]⟩ := by
    rw [Path.dropLast_name hWritable.name]
  rcases hWritable.target.found hPath hAdds hRooted hParent with
    ⟨finish, hFinish, hFree, hAround, hOver⟩
  rcases (hWritable.sibling _ hTemporary).found rfl hAdds hRooted hParent
    with ⟨start, hStart, hNone, hBeside, hMovable⟩
  have hMid : mid.IsTree := hAdds.isTree hTree
  rcases attempt_succeeds hMid hStart hNone hBeside hMovable hFinish hFree
      hAround hOver bytes with ⟨later, hAttempt⟩
  unfold writeAtomically
  rw [Stateful.bind_of_ok hMade, hTemporary,
    Stateful.bind_of_ok (Stateful.liftM_apply _ _),
    Stateful.tryCatch_apply, hAttempt]

end Disk

end Joinery
