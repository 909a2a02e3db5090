import Joinery.Proofs.Config.Reading
import Joinery.Proofs.FileTree.Names
import Joinery.Proofs.FileTree.Steps

/-
  A text can be written in one piece to a path if the
  directory around it is there, and beside it a name is free
  for the temporary file. Then it is what the path leads to.
  If the name of the temporary file is too long, nothing is
  written.

  Key definitions include:
    * `FileTree.IsRooted`
    * `FileTree.KeepsDirectories`
    * `FileTree.IsTarget`

  Key theorems include:
    * `FileTree.IsRooted.around`
    * `Disk.makeDirectory_of_directory`
    * `Disk.writeTextAtomically_target`
    * `Disk.writeTextAtomically_tooLong`
-/

namespace Joinery

namespace FileTree

variable {tree later last : FileTree}
variable {path : Path}
variable {place : Location}

------------------------------------------------------------
-- Rooted Trees
------------------------------------------------------------

/- Whatever is in a tree is in a directory. -/
def IsRooted
    (tree : FileTree) : Prop :=
  ∀ place, tree.entry? place ≠ none →
    tree.entry? place.dropLast = some .directory

/- It is enough to look at all entries. -/
theorem isRooted_of_entries
    (hEntries :
      ∀ e ∈ tree.entries, tree.entry? e.1.dropLast = some .directory) :
    tree.IsRooted := by
  intro place hPlace
  unfold entry? at hPlace
  split at hPlace
  · rename_i hRoot
    rw [hRoot]
    rfl
  · rcases Option.ne_none_iff_exists'.mp hPlace with ⟨entry, hEntry⟩
    rcases List.lookup_eq_some_iff.mp hEntry with ⟨before, after, hSplit, -⟩
    refine hEntries (place, entry) ?_
    rw [hSplit]
    exact List.mem_append_right _ (List.mem_cons_self ..)

/- So is what a walk leads to, whether it is there or not. -/
theorem IsRooted.around_walk
    (hRooted : tree.IsRooted)
    {start : Location}
    {parts : List Text}
    (hParts : parts ≠ [])
    (hWalk : tree.walk start parts = .ok place) :
    tree.entry? place.dropLast = some .directory := by
  induction parts generalizing start with
  | nil => exact absurd rfl hParts
  | cons part rest ih =>
      -- the walk goes on from a directory, up or down
      have hStep :
          ∃ next, tree.walk next rest = .ok place ∧
            tree.entry? next.dropLast = some .directory := by
        rw [walk] at hWalk
        split at hWalk
        · cases hWalk
        · cases hWalk
        · rename_i hStart
          split at hWalk
          · have hUp := hRooted start (by simp [hStart])
            exact ⟨_, hWalk, hRooted start.dropLast (by simp [hUp])⟩
          · split at hWalk
            · cases hWalk
            · exact ⟨_, hWalk, by rw [List.dropLast_concat, hStart]⟩
      rcases hStep with ⟨next, hRest, hNext⟩
      cases rest with
      | nil =>
          rw [walk] at hRest
          cases hRest
          exact hNext
      | cons other others => exact ih (List.cons_ne_nil _ _) hRest

theorem IsRooted.around
    (hRooted : tree.IsRooted)
    (hParts : path.parts ≠ [])
    (hLeads : tree.locate path = .ok place) :
    tree.entry? place.dropLast = some .directory := by
  rw [locate] at hLeads
  split at hLeads
  · cases hLeads
  · exact hRooted.around_walk hParts hLeads

/- A name leads into the working directory, unless it is too long. -/
theorem locate_name
    (hHome : tree.entry? tree.home = some .directory)
    {name : Text}
    (hDown : name ≠ "..") :
    tree.locate ⟨"", [name]⟩ =
      if longestName < byteCount name then .error .nameTooLong
      else .ok (tree.home ++ [shownName name]) := by
  rw [locate, Path.text_name, if_pos rfl, walk, hHome]
  dsimp only
  rw [if_neg hDown, walk]
  by_cases hLong : longestPath < byteCount name
  · have hName : longestName < longestPath := by decide
    rw [if_pos hLong, if_pos (hName.trans hLong)]
  · rw [if_neg hLong]

------------------------------------------------------------
-- Directories That Stay
------------------------------------------------------------

/-
  The directories of a tree are directories of a later one,
  and what is in them can be changed as before.
-/
structure KeepsDirectories
    (tree later : FileTree) : Prop where
  home : later.home = tree.home
  readOnly : later.readOnly = tree.readOnly
  directory :
    ∀ place, tree.entry? place = some .directory →
      later.entry? place = some .directory

namespace KeepsDirectories

theorem trans
    (hFirst : KeepsDirectories tree later)
    (hSecond : KeepsDirectories later last) :
    KeepsDirectories tree last where
  home := hSecond.home.trans hFirst.home
  readOnly := hSecond.readOnly.trans hFirst.readOnly
  directory := fun place hPlace =>
    hSecond.directory place (hFirst.directory place hPlace)

theorem write
    (tree : FileTree)
    (serial : Nat)
    (bytes : List UInt8) :
    KeepsDirectories tree (tree.write serial bytes) :=
  ⟨rfl, rfl, fun _ hPlace => hPlace⟩

theorem put
    (hFree : tree.entry? place ≠ some .directory)
    (entry : Entry) :
    KeepsDirectories tree (tree.put place entry) := by
  refine ⟨rfl, rfl, fun key hKey => ?_⟩
  rw [entry?_put]
  split
  · rfl
  · split
    · rename_i hSame
      exact absurd (hSame ▸ hKey) hFree
    · exact hKey

theorem drop
    (hFree : tree.entry? place ≠ some .directory) :
    KeepsDirectories tree (tree.drop place) := by
  refine ⟨rfl, rfl, fun key hKey => ?_⟩
  rw [entry?_drop]
  split
  · rfl
  · split
    · rename_i hSame
      exact absurd (hSame ▸ hKey) hFree
    · exact hKey

theorem isReadOnly_eq
    (hKeeps : KeepsDirectories tree later)
    (place : Location) :
    later.isReadOnly place = tree.isReadOnly place := by
  rw [isReadOnly, isReadOnly, hKeeps.readOnly]

/- Where all directories are still there, a path leads to the same place. -/
theorem locate
    (hKeeps : KeepsDirectories tree later)
    (hLeads : tree.locate path = .ok place) :
    later.locate path = .ok place := by
  have hWalk :
      ∀ parts start, tree.walk start parts = .ok place →
        later.walk start parts = .ok place := by
    intro parts
    induction parts with
    | nil => exact fun _ hWalk => hWalk
    | cons part rest ih =>
        intro start hWalk
        rw [walk] at hWalk ⊢
        split at hWalk
        · cases hWalk
        · cases hWalk
        · rename_i hStart
          rw [hKeeps.directory start hStart]
          dsimp only
          split at hWalk
          · rename_i hUp
            rw [if_pos hUp]
            exact ih _ hWalk
          · rename_i hDown
            rw [if_neg hDown]
            split at hWalk
            · cases hWalk
            · rename_i hShort
              rw [if_neg hShort]
              exact ih _ hWalk
  rw [FileTree.locate] at hLeads ⊢
  rw [hKeeps.home]
  split at hLeads
  · cases hLeads
  · rename_i hShort
    rw [if_neg hShort]
    exact hWalk _ _ hLeads

end KeepsDirectories

/- A path that leads to a file leads to its contents. -/
theorem contentAt?_of_entry
    (hFlaw : Disk.flaw? path = none)
    (hLeads : tree.locate path = .ok place)
    {serial : Nat}
    (hEntry : tree.entry? place = some (.file serial)) :
    tree.contentAt? path = some (tree.bytes serial) := by
  rw [contentAt?, hFlaw, hLeads]
  simp [read?, hEntry]

------------------------------------------------------------
-- Targets
------------------------------------------------------------

/-
  A file can be put at a path: the directory around it is
  there and can be written to, the path leads somewhere and
  not to a directory, and the path of the temporary file
  leads to nothing yet.
-/
structure IsTarget
    (tree : FileTree)
    (path : Path) : Prop where
  parent : (Disk.isDirectory? path.parent tree).1 = .ok true
  free :
    ∃ place, Disk.locate path tree = (.ok place, tree) ∧
      tree.entry? place ≠ some .directory ∧
      tree.isReadOnly place = false
  sibling :
    ∀ temporary,
      Disk.temporary path Disk.temporarySuffix = .ok temporary →
      ∃ place, Disk.locate temporary tree = (.ok place, tree) ∧
        tree.entry? place = none ∧ tree.isReadOnly place = false

end FileTree

namespace Disk

open FileTree

variable {tree : FileTree}
variable {path : Path}
variable {place : Location}

/- A path that leads to a place has no flaw. -/
theorem locate_ok_iff :
    locate path tree = (.ok place, tree) ↔
      flaw? path = none ∧ tree.locate path = .ok place := by
  rw [locate_apply]
  constructor
  · intro hLocate
    cases hFlaw : flaw? path with
    | some fault =>
        rw [hFlaw] at hLocate
        cases hLocate
    | none =>
        rw [hFlaw] at hLocate
        cases hLeads : tree.locate path with
        | error fault =>
            rw [hLeads] at hLocate
            cases hLocate
        | ok other =>
            rw [hLeads] at hLocate
            cases hLocate
            exact ⟨rfl, rfl⟩
  · rintro ⟨hFlaw, hLeads⟩
    rw [hFlaw, hLeads]

theorem isDirectory?_apply
    (path : Path)
    (tree : FileTree) :
    isDirectory? path tree =
      ((status? path tree).1.map (decide <| · = some .directory),
        tree) := by
  have hTree := status?_tree path tree
  unfold isDirectory?
  rw [Stateful.bind_apply]
  revert hTree
  rcases status? path tree with ⟨outcome, later⟩
  rintro rfl
  cases outcome <;> rfl

/- A path that is found to lead to a directory leads to its place. -/
theorem isDirectory?_spec
    (hDirectory : (isDirectory? path tree).1 = .ok true) :
    isDirectory? path tree = (.ok true, tree) ∧
      ∃ place, locate path tree = (.ok place, tree) ∧
        tree.entry? place = some .directory := by
  rw [isDirectory?_apply] at hDirectory ⊢
  refine ⟨Prod.ext hDirectory rfl, ?_⟩
  rw [status?_apply] at hDirectory
  rw [locate_apply]
  cases hFlaw : flaw? path with
  | some fault =>
      rw [hFlaw] at hDirectory
      cases hDirectory
  | none =>
      rw [hFlaw] at hDirectory
      cases hLeads : tree.locate path with
      | error fault =>
          rw [hLeads] at hDirectory
          cases fault <;> cases hDirectory
      | ok place =>
          rw [hLeads] at hDirectory
          refine ⟨place, rfl, ?_⟩
          exact of_decide_eq_true (Except.ok.inj hDirectory)

------------------------------------------------------------
-- Directories That Exist
------------------------------------------------------------

/- A directory that is there is accepted, and nothing changes. -/
theorem makeOrAccept_of_directory
    (hDirectory : (isDirectory? path tree).1 = .ok true) :
    makeOrAccept path tree = (.ok ⟨⟩, tree) := by
  rcases isDirectory?_spec hDirectory with
    ⟨hFound, place, hPlace, hEntry⟩
  have hOne :
      makeOne path tree =
        (.error (.file .exists path.text none), tree) := by
    unfold makeOne
    rw [Stateful.bind_of_ok hPlace, Stateful.bind_apply,
      Stateful.get_apply]
    dsimp only
    rw [hEntry]
    rfl
  unfold makeOrAccept
  rw [Stateful.tryCatch_apply, hOne]
  dsimp only
  rw [Stateful.bind_of_ok hFound]
  rfl

/- To make a directory that is there changes nothing. -/
theorem makeDirectory_of_directory
    (hDirectory : (isDirectory? path tree).1 = .ok true) :
    makeDirectory path tree = (.ok ⟨⟩, tree) := by
  have hAccepted := makeOrAccept_of_directory hDirectory
  have hPath : (⟨path.root, path.parts.reverse.reverse⟩ : Path) = path := by
    rw [List.reverse_reverse]
  unfold makeDirectory
  cases hParts : path.parts.reverse with
  | nil =>
      rw [hParts] at hPath
      rw [makeParents]
      exact hPath.symm ▸ hAccepted
  | cons part outer =>
      rw [hParts] at hPath
      rw [makeParents, Stateful.tryCatch_apply, hPath, hAccepted]

------------------------------------------------------------
-- Writing To A Target
------------------------------------------------------------

/-
  Where a path leads to nothing in a directory, a file is
  made. No directory comes or goes.
-/
theorem create_new
    (hPlace : locate path tree = (.ok place, tree))
    (hNone : tree.entry? place = none)
    (hAround : tree.entry? place.dropLast = some .directory)
    (hWritable : tree.isReadOnly place = false)
    (bytes : List UInt8) :
    ∃ made, create path bytes tree = (.ok ⟨⟩, made) ∧
      made.contentAt? path = some bytes ∧
      KeepsDirectories tree made ∧
      ∀ key, made.entry? key = some .directory →
        tree.entry? key = some .directory := by
  let put := tree.put place (.file tree.freshSerial)
  let opened := put.write tree.freshSerial []
  have hEntry : ∀ key, put.entry? key =
      if key = [] then some .directory
      else if key = place then some (.file tree.freshSerial)
      else tree.entry? key :=
    fun key => entry?_put tree place key _
  have hBelow : place ≠ [] := by
    rintro rfl
    cases hNone
  have hKeeps :
      KeepsDirectories tree (opened.write tree.freshSerial bytes) := by
    refine (KeepsDirectories.put ?_ _).trans
      ((KeepsDirectories.write _ _ _).trans (KeepsDirectories.write _ _ _))
    rw [hNone]
    exact nofun
  rcases locate_ok_iff.mp hPlace with ⟨hFlaw, hLeads⟩
  refine ⟨opened.write tree.freshSerial bytes, ?_, ?_, hKeeps, ?_⟩
  · unfold create openFile
    rw [Stateful.bind_apply, Stateful.bind_of_ok hPlace,
      Stateful.bind_apply, Stateful.get_apply]
    dsimp only
    rw [hNone]
    dsimp only
    rw [hAround, hWritable]
    rfl
  · have hThere : put.entry? place = some (.file tree.freshSerial) := by
      rw [hEntry, if_neg hBelow, if_pos rfl]
    rw [contentAt?_of_entry hFlaw (hKeeps.locate hLeads) hThere,
      bytes_write, if_pos rfl]
  · intro key hKey
    change put.entry? key = _ at hKey
    rw [hEntry] at hKey
    split at hKey
    · rename_i hRoot
      rw [hRoot]
      rfl
    · split at hKey
      · cases hKey
      · exact hKey

/-
  A file is put where another path leads in a directory, over
  a file at most, if both directories can be changed. Then it
  is what that path leads to.
-/
theorem rename_over
    {source target : Path}
    {start : Location}
    {bytes : List UInt8}
    (hContent : tree.contentAt? source = some bytes)
    (hStart : tree.locate source = .ok start)
    (hMovable : tree.isReadOnly start = false)
    (hPlace : locate target tree = (.ok place, tree))
    (hFree : tree.entry? place ≠ some .directory)
    (hAround : tree.entry? place.dropLast = some .directory)
    (hWritable : tree.isReadOnly place = false) :
    ∃ later, rename source target tree = (.ok ⟨⟩, later) ∧
      later.contentAt? target = some bytes := by
  rcases contentAt?_spec hContent with
    ⟨-, _, serial, hFound, hEntry, hBytes⟩
  cases hStart.symm.trans hFound
  rcases locate_ok_iff.mp hPlace with ⟨hFlaw, hLeads⟩
  have hRename :
      rename source target tree =
        (.ok ⟨⟩,
          if start = place then tree
          else (tree.drop start).put place (.file serial)) := by
    unfold rename
    rw [Stateful.bind_apply, Stateful.get_apply]
    dsimp only
    rw [hStart, hLeads]
    dsimp only
    rw [hMovable, hWritable, Bool.or_self, if_neg Bool.false_ne_true,
      hEntry]
    dsimp only
    split
    · rfl
    · rw [if_neg (not_not.mpr hAround)]
      rfl
  refine ⟨_, hRename, ?_⟩
  split
  · rename_i hSame
    rw [contentAt?_of_entry hFlaw hLeads (hSame ▸ hEntry), hBytes]
  · rename_i hOther
    have hBelow : place ≠ [] := by
      rintro rfl
      exact hFree rfl
    have hGone :
        FileTree.entry? (tree.drop start) place = tree.entry? place := by
      rw [entry?_drop, if_neg hBelow, if_neg (Ne.symm hOther)]
    have hKeeps :
        KeepsDirectories tree
          ((tree.drop start).put place (.file serial)) := by
      refine (KeepsDirectories.drop ?_).trans (KeepsDirectories.put ?_ _)
      · rw [hEntry]
        exact nofun
      · rw [hGone]
        exact hFree
    have hThere :
        FileTree.entry? ((tree.drop start).put place (.file serial)) place =
          some (.file serial) := by
      rw [entry?_put, if_neg hBelow, if_pos rfl]
    rw [contentAt?_of_entry hFlaw (hKeeps.locate hLeads) hThere]
    exact congrArg some hBytes

/- A target has a name: the path of a directory is no target. -/
theorem parts_of_target
    (hTarget : tree.IsTarget path) :
    path.parts ≠ [] := by
  intro hParts
  have hParent : path.parent = path := by
    rw [Path.parent, hParts, List.dropLast_nil, ← hParts]
  rcases isDirectory?_spec hTarget.parent with ⟨-, place, hPlace, hEntry⟩
  rcases hTarget.free with ⟨other, hOther, hFree, -⟩
  rw [hParent, hOther] at hPlace
  cases hPlace
  exact hFree hEntry

section Texts

variable {name text : Text}
variable {encoding : String}
variable {bytes : List UInt8}

/-
  A text is written in one piece to a target, and is what the
  path leads to from then on.
-/
theorem writeTextAtomically_target
    (hRooted : tree.IsRooted)
    (hTarget : tree.IsTarget (Path.ofText name))
    (hBytes : Encoding.encode? encoding text = some bytes) :
    ∃ later,
      writeTextAtomically (Path.ofText name) text encoding tree =
          (.ok ⟨⟩, later) ∧
        later.contentAt? (Path.ofText name) = some bytes := by
  have hParts := parts_of_target hTarget
  have hTemporary := temporary_ofText hParts
  rcases hTarget.free with ⟨finish, hFinish, hFree, hWritable⟩
  rcases hTarget.sibling _ hTemporary with
    ⟨start, hStart, hNone, hMovable⟩
  rcases locate_ok_iff.mp hFinish with ⟨hFlaw, hLeads⟩
  have hBeside := (locate_ok_iff.mp hStart).2
  rcases create_new hStart hNone (hRooted.around (by simp) hBeside)
      hMovable bytes with
    ⟨made, hCreate, hContent, hKeeps, hSame⟩
  have hFound : locate (Path.ofText name) made = (.ok finish, made) :=
    locate_ok_iff.mpr ⟨hFlaw, hKeeps.locate hLeads⟩
  rcases rename_over hContent (hKeeps.locate hBeside)
      ((hKeeps.isReadOnly_eq start).trans hMovable) hFound
      (fun hOver => hFree (hSame _ hOver))
      (hKeeps.directory _ (hRooted.around hParts hLeads))
      ((hKeeps.isReadOnly_eq finish).trans hWritable) with
    ⟨later, hRename, hDone⟩
  refine ⟨later, ?_, hDone⟩
  unfold writeTextAtomically
  rw [hBytes]
  dsimp only
  unfold writeAtomically
  rw [Stateful.bind_of_ok (makeDirectory_of_directory hTarget.parent),
    hTemporary, Stateful.bind_of_ok (Stateful.liftM_apply _ _),
    Stateful.tryCatch_apply, Stateful.bind_of_ok hCreate, hRename]

/-
  If the path of the temporary file is too long, this is what
  is reported, and nothing is written.
-/
theorem writeTextAtomically_tooLong
    {temporary : Path}
    (hParent : (isDirectory? path.parent tree).1 = .ok true)
    (hTemporary : Disk.temporary path temporarySuffix = .ok temporary)
    (hFlaw : flaw? temporary = none)
    (hLong : tree.locate temporary = .error .nameTooLong)
    (hBytes : Encoding.encode? encoding text = some bytes) :
    writeTextAtomically path text encoding tree =
      (.error (.file .nameTooLong temporary.text none), tree) := by
  have hCreate :
      create temporary bytes tree =
        (.error (.file .nameTooLong temporary.text none), tree) := by
    unfold create openFile
    rw [Stateful.bind_apply, Stateful.bind_apply, locate_apply, hFlaw,
      hLong]
  have hExists :
      exists? temporary tree =
        (.error (.file .nameTooLong temporary.text none), tree) := by
    unfold exists?
    rw [Stateful.bind_apply, status?_apply, hFlaw, hLong]
    rfl
  unfold writeTextAtomically
  rw [hBytes]
  dsimp only
  unfold writeAtomically
  rw [Stateful.bind_of_ok (makeDirectory_of_directory hParent),
    hTemporary, Stateful.bind_of_ok (Stateful.liftM_apply _ _),
    Stateful.tryCatch_apply, Stateful.bind_of_error hCreate]
  show undo path temporary _ tree = _
  unfold undo
  rw [Stateful.bind_of_error hExists]

end Texts

end Disk

end Joinery
