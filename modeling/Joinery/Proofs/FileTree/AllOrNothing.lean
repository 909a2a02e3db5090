import Joinery.Proofs.FileTree.Writable

/-
  A file is written in one piece or not at all. Either the
  target holds all bytes and there is no temporary file, or
  the attempt has failed and the target is what it was. All
  other places stay as they are, except that directories are
  made around the target and that a file in the place of the
  temporary one may be gone. It is written if nothing is in
  the way.

  Key definitions include:
    * `FileTree.IsMadeAround`
    * `FileTree.IsAllOrNothing`

  Key theorems include:
    * `FileTree.isAllOrNothing_of_attempt`
    * `Disk.writeAtomically_all_or_nothing`
-/

namespace Joinery

namespace FileTree

variable {tree later : FileTree}

------------------------------------------------------------
-- All Or Nothing
------------------------------------------------------------

/- A directory has been made where nothing was, around a path. -/
def IsMadeAround
    (path : Path)
    (tree later : FileTree)
    (place : Location) : Prop :=
  tree.IsOnWay path.parent place ∧ tree.sight place = .nothing ∧
    later.sight place = .directory

/-
  A file was written in one piece or not at all. If so, its
  path leads to all of the bytes, and the temporary file is
  gone. If not, the target looks as it did before, unless it
  was one of the directories to be made around itself. No
  temporary file is left, and all else looks as before but
  for directories around the target, and for a file that was
  in the place of the temporary one.
-/
structure IsAllOrNothing
    (path : Path)
    (bytes : List UInt8)
    (tree later : FileTree)
    (outcome : Outcome Unit) : Prop where
  written :
    outcome = .ok ⟨⟩ →
      later.locate path = .ok (tree.goal path) ∧
        later.sight (tree.goal path) = .file bytes ∧
        ∃ temporary,
          Disk.temporary path Disk.temporarySuffix = .ok temporary ∧
            later.sight (tree.goal temporary) = .nothing
  unwritten :
    ∀ fault, outcome = .error fault →
      later.sight (tree.goal path) = tree.sight (tree.goal path) ∨
        IsMadeAround path tree later (tree.goal path)
  nothingLeft :
    ∀ temporary bytes,
      Disk.temporary path Disk.temporarySuffix = .ok temporary →
        later.sight (tree.goal temporary) = .file bytes →
          tree.sight (tree.goal temporary) = .file bytes
  elsewhere :
    ∀ place, place ≠ tree.goal path →
      later.sight place = tree.sight place ∨
        IsMadeAround path tree later place ∨
        ∃ temporary,
          Disk.temporary path Disk.temporarySuffix = .ok temporary ∧
            place = tree.goal temporary ∧ IsCleared tree later place

section Composing

variable {path temporary : Path}
variable {bytes : List UInt8}
variable {mid : FileTree}
variable (hAdds : AddsDirectories (tree.IsOnWay path.parent) tree mid)

include hAdds

/- What looks as it does with the directories looks as before, or is one. -/
theorem same_or_made
    {key : Location}
    (hSame : later.sight key = mid.sight key) :
    later.sight key = tree.sight key ∨
      IsMadeAround path tree later key := by
  rcases hAdds.sight_cases key with hKept | ⟨hPlace, hNone, hMade⟩
  · exact Or.inl (hSame.trans hKept)
  · exact Or.inr ⟨hPlace, hNone, hSame.trans hMade⟩

/- An attempt after the directories are made is all or nothing. -/
theorem isAllOrNothing_of_attempt
    {outcome : Outcome Unit}
    (hTemporary :
      Disk.temporary path Disk.temporarySuffix = .ok temporary)
    (hApart : tree.goal temporary ≠ tree.goal path)
    (hAttempt : IsAttempt path temporary bytes mid later outcome) :
    IsAllOrNothing path bytes tree later outcome := by
  have hTarget : mid.goal path = tree.goal path :=
    goal_of_home hAdds.home path
  have hSibling : mid.goal temporary = tree.goal temporary :=
    goal_of_home hAdds.home temporary
  have hElsewhere :
      ∀ place, place ≠ tree.goal path →
        later.sight place = tree.sight place ∨
          IsMadeAround path tree later place ∨
          (place = tree.goal temporary ∧ IsCleared tree later place) := by
    intro place hOther
    rw [← hTarget] at hOther
    rcases hAttempt.others place hOther with
      hSame | ⟨hPlace, ⟨held, hFile⟩, hGone⟩
    · exact (same_or_made hAdds hSame).imp_right Or.inl
    · rcases hAdds.sight_cases place with hKept | ⟨-, -, hMade⟩
      · exact Or.inr (Or.inr
          ⟨hPlace.trans hSibling, ⟨held, hKept ▸ hFile⟩, hGone⟩)
      · rw [hMade] at hFile
        cases hFile
  constructor
  case written =>
    intro hDone
    rcases hAttempt.written hDone with ⟨hLeads, hThere, hGone⟩
    rw [hTarget] at hLeads hThere
    rw [hSibling] at hGone
    exact ⟨hLeads, hThere, temporary, hTemporary, hGone⟩
  case unwritten =>
    intro fault hFailed
    rw [← hTarget]
    exact same_or_made hAdds (hAttempt.unwritten fault hFailed)
  case nothingLeft =>
    intro other held hOther hFile
    rw [hTemporary] at hOther
    cases hOther
    rcases hElsewhere _ hApart with
      hSame | ⟨-, -, hMade⟩ | ⟨-, -, hGone⟩
    · exact hSame ▸ hFile
    · rw [hMade] at hFile
      cases hFile
    · rw [hGone] at hFile
      cases hFile
  case elsewhere =>
    intro place hOther
    refine (hElsewhere place hOther).imp_right fun hRest => ?_
    exact hRest.imp_right fun hCleared => ⟨temporary, hTemporary, hCleared⟩

/- An attempt that ends with the directories leaves no file. -/
theorem isAllOrNothing_of_adds
    (fault : Fault) :
    IsAllOrNothing path bytes tree mid (.error fault) where
  written := nofun
  unwritten := fun _ _ => same_or_made hAdds rfl
  nothingLeft := by
    intro temporary held _ hFile
    have hCases :
        mid.sight (tree.goal temporary) = tree.sight (tree.goal temporary) ∨
          IsMadeAround path tree mid (tree.goal temporary) :=
      same_or_made hAdds rfl
    rcases hCases with hSame | ⟨-, -, hMade⟩
    · exact hSame ▸ hFile
    · rw [hMade] at hFile
      cases hFile
  elsewhere := fun _ _ => (same_or_made hAdds rfl).imp_right Or.inl

end Composing

end FileTree

namespace Disk

open FileTree

theorem writeAtomically_isAllOrNothing
    (t : Text)
    (bytes : List UInt8)
    (tree : FileTree)
    (hTree : tree.IsTree) :
    IsAllOrNothing (Path.ofText t) bytes tree
      (writeAtomically (Path.ofText t) bytes temporarySuffix tree).2
      (writeAtomically (Path.ofText t) bytes temporarySuffix tree).1 := by
  have hAdds := makeDirectory_adds (Path.ofText t).parent tree
  unfold writeAtomically
  rw [Stateful.bind_apply]
  revert hAdds
  rcases makeDirectory (Path.ofText t).parent tree with ⟨made, mid⟩
  intro hAdds
  cases made with
  | error fault => exact isAllOrNothing_of_adds hAdds fault
  | ok _ =>
      dsimp only
      cases hTemporary : temporary (Path.ofText t) temporarySuffix with
      | error fault => exact isAllOrNothing_of_adds hAdds fault
      | ok sibling =>
          rw [Stateful.bind_of_ok (Stateful.liftM_apply _ _)]
          have hApart := goal_temporary_ne mid hTemporary
          refine isAllOrNothing_of_attempt hAdds hTemporary
            (goal_temporary_ne tree hTemporary) ?_
          exact attempt_isAttempt (hAdds.isTree hTree) hApart bytes
            (Prod.eta _).symm

/-
  Whatever the tree is and wherever the path leads, a file is
  written in one piece or not at all. It is written if nothing
  is in the way.
-/
theorem writeAtomically_all_or_nothing
    (t : Text)
    (bytes : List UInt8)
    (tree : FileTree)
    (hTree : tree.IsTree) :
    let run := writeAtomically (Path.ofText t) bytes temporarySuffix tree
    IsAllOrNothing (Path.ofText t) bytes tree run.2 run.1 ∧
      (tree.IsWritable (Path.ofText t) → run.1 = .ok ⟨⟩) :=
  ⟨writeAtomically_isAllOrNothing t bytes tree hTree,
    fun hWritable => writeAtomically_writable hTree hWritable bytes⟩

/- A tree with an empty working directory. -/
def emptyHome : FileTree where
  home := ["work"]
  entries := [(["work"], .directory)]
  contents := []

theorem emptyHome_isTree :
    emptyHome.IsTree :=
  (IsTree.empty ["work"] []).putDirectory ["work"]

/-
  A target that is one of the directories around itself is
  made, and then it is not a file that can be replaced.
-/
theorem target_made_around_itself :
    let run :=
      writeAtomically (Path.ofText "a/../a") [0x41] temporarySuffix
        emptyHome
    let target := emptyHome.goal (Path.ofText "a/../a")
    emptyHome.IsTree ∧ (∃ fault, run.1 = .error fault) ∧
      emptyHome.sight target = .nothing ∧
      run.2.sight target = .directory := by
  have hFailed :
      (writeAtomically (Path.ofText "a/../a") [0x41] temporarySuffix
        emptyHome).1.isOk = false := by
    decide +kernel
  refine ⟨emptyHome_isTree, ?_, by decide +kernel, by decide +kernel⟩
  cases hRun :
    (writeAtomically (Path.ofText "a/../a") [0x41] temporarySuffix
      emptyHome).1 with
  | ok _ =>
      rw [hRun] at hFailed
      cases hFailed
  | error fault => exact ⟨fault, rfl⟩

/- A file and, beside it, one in the place of the temporary file. -/
def littered : FileTree :=
  (emptyHome.withFile ["work", "cut.nc"] [0x47]).withFile
    ["work", "cut.nc.tmp"] [0x21]

theorem littered_isTree :
    littered.IsTree :=
  (emptyHome_isTree.withFile _ _).withFile _ _

/- The first file can be written, since both are in a directory. -/
theorem littered_isWritable :
    littered.IsWritable (Path.ofText "cut.nc") := by
  have hRooted : littered.IsRooted :=
    isRooted_of_entries (by decide +kernel)
  have hPlaces :
      ∀ place, littered.IsOnWay (Path.ofText "cut.nc").parent place →
        place = ["work"] := by
    rintro place ⟨front, hFront, rfl⟩
    have hParent : (Path.ofText "cut.nc").parent = ⟨"", []⟩ := by
      decide +kernel
    rw [hParent] at hFront ⊢
    rw [List.prefix_nil.mp hFront]
    rfl
  have hChangeable : ∀ place, littered.isReadOnly place = false :=
    fun _ => rfl
  have hRoom :
      ∀ target, target.Fits →
        littered.entry? (littered.goal target) ≠ some .directory →
        littered.goal target ≠ ["work"] →
          littered.HasRoom (Path.ofText "cut.nc") target :=
    fun target hFits hFree hOther =>
      ⟨hFits, hFree, hChangeable _,
        fun hOnWay => hOther (hPlaces _ hOnWay)⟩
  constructor
  case name => decide +kernel
  case parent =>
    refine ⟨hRooted, rfl, ⟨?_, ?_, ?_⟩, fun place hOnWay serial => ?_,
      fun place _ _ => hChangeable place⟩
    · decide +kernel
    · decide +kernel
    · decide +kernel
    · rw [hPlaces place hOnWay]
      exact nofun
  case target =>
    refine hRoom _ ⟨?_, ?_, ?_⟩ ?_ ?_ <;> decide +kernel
  case sibling =>
    intro beside hBeside
    rw [temporary_ofText (by decide +kernel)] at hBeside
    cases hBeside
    refine hRoom _ ⟨?_, ?_, ?_⟩ ?_ ?_ <;> decide +kernel

/- The first file is replaced by another one, and the second is gone. -/
theorem littered_all_or_nothing :
    let run :=
      writeAtomically (Path.ofText "cut.nc") [0x4d, 0x30] temporarySuffix
        littered
    littered.IsTree ∧ littered.IsWritable (Path.ofText "cut.nc") ∧
      IsAllOrNothing (Path.ofText "cut.nc") [0x4d, 0x30] littered
        run.2 run.1 ∧
      run.1 = .ok ⟨⟩ ∧
      littered.sight ["work", "cut.nc.tmp"] = .file [0x21] ∧
      run.2.sight ["work", "cut.nc.tmp"] = .nothing ∧
      run.2.sight ["work", "cut.nc"] = .file [0x4d, 0x30] := by
  rcases writeAtomically_all_or_nothing "cut.nc" [0x4d, 0x30] littered
      littered_isTree with ⟨hAll, hWritten⟩
  exact
    ⟨littered_isTree, littered_isWritable, hAll,
      hWritten littered_isWritable, by decide +kernel, by decide +kernel,
      by decide +kernel⟩

end Disk

end Joinery
