import Joinery.Proofs.FileTree.Saving
import Joinery.Proofs.FileTree.Siblings
import Joinery.Proofs.FileTree.Sights

/-
  An attempt to write a file, once the directories around it
  are there. Its steps can fail one after the other: the
  temporary file is made and filled, and then it is moved to
  the target. What each step leaves behind is described by
  what is seen at every place. Only the target and the place
  of the temporary file can look different afterwards.

  Key definitions include:
    * `FileTree.PutsFile`
    * `FileTree.IsCleared`
    * `FileTree.IsAttempt`

  Key theorems include:
    * `FileTree.sight_move`
    * `Disk.create_puts`
    * `Disk.undo_cases`
    * `Disk.attempt_isAttempt`
-/

namespace Joinery

namespace FileTree

variable {tree later : FileTree}
variable {place other : Location}

------------------------------------------------------------
-- Sights After A Change
------------------------------------------------------------

/- Where a file was taken away nothing is seen, and all else as before. -/
theorem sight_drop
    {serial : Nat}
    (hFile : tree.entry? place = some (.file serial))
    (key : Location) :
    FileTree.sight (tree.drop place) key =
      if key = place then .nothing else tree.sight key := by
  have hRoot : place ≠ [] := by
    rintro rfl
    cases hFile
  split
  · rename_i hSame
    refine sight_of_none ?_
    rw [entry?_drop, hSame, if_neg hRoot, if_pos rfl]
  · rename_i hOther
    refine sight_congr ?_ fun _ _ => rfl
    rw [entry?_drop, if_neg hOther]
    split
    · rename_i hKey
      rw [hKey]
      rfl
    · rfl

/- A file that was moved is seen at the other place only. -/
theorem sight_move
    {serial : Nat}
    (hFile : tree.entry? place = some (.file serial))
    (hFree : tree.entry? other ≠ some .directory)
    (key : Location) :
    FileTree.sight ((tree.drop place).put other (.file serial)) key =
      if key = other then tree.sight place
      else if key = place then .nothing
      else tree.sight key := by
  split
  · rename_i hSame
    have hThere :
        FileTree.entry? ((tree.drop place).put other (.file serial)) key =
          some (.file serial) := by
      have hRoot : other ≠ [] := by
        rintro rfl
        exact hFree rfl
      rw [hSame]
      exact entry?_put_self hRoot _ _
    rw [sight_of_file hThere, sight_of_file hFile]
    rfl
  · rename_i hKey
    rw [← sight_drop hFile key]
    exact sight_congr (entry?_put_other hKey _ _) fun _ _ => rfl

/- Where directories are still seen, a path leads to the same place. -/
theorem keepsDirectories_of_sight
    (hHome : later.home = tree.home)
    (hReadOnly : later.readOnly = tree.readOnly)
    (hSight :
      ∀ key, tree.sight key = .directory → later.sight key = .directory) :
    KeepsDirectories tree later where
  home := hHome
  readOnly := hReadOnly
  directory := fun key hKey =>
    sight_eq_directory_iff.mp
      (hSight key (sight_eq_directory_iff.mpr hKey))

/- To move a file leaves all directories where they are. -/
theorem keepsDirectories_of_move
    {serial : Nat}
    (hFile : tree.entry? place = some (.file serial))
    (hFree : tree.entry? other ≠ some .directory) :
    KeepsDirectories tree ((tree.drop place).put other (.file serial)) := by
  refine keepsDirectories_of_sight rfl rfl fun key hKey => ?_
  have hTarget : key ≠ other := by
    rintro rfl
    exact hFree (sight_eq_directory_iff.mp hKey)
  have hStart : key ≠ place := by
    rintro rfl
    rw [sight_of_file hFile] at hKey
    cases hKey
  rw [sight_move hFile hFree, if_neg hTarget, if_neg hStart, hKey]

/- A file with some bytes is put at a place that has no directory. -/
structure PutsFile
    (place : Location)
    (bytes : List UInt8)
    (tree later : FileTree) : Prop where
  home : later.home = tree.home
  readOnly : later.readOnly = tree.readOnly
  free : tree.sight place ≠ .directory
  file : later.sight place = .file bytes
  others : ∀ key, key ≠ place → later.sight key = tree.sight key

theorem PutsFile.keepsDirectories
    {bytes : List UInt8}
    (hPuts : PutsFile place bytes tree later) :
    KeepsDirectories tree later := by
  refine keepsDirectories_of_sight hPuts.home hPuts.readOnly
    fun key hKey => ?_
  have hOther : key ≠ place := by
    rintro rfl
    exact hPuts.free hKey
  rw [hPuts.others key hOther, hKey]

/- Where a file was put or was before, nothing may be seen later. -/
def IsCleared
    (tree later : FileTree)
    (place : Location) : Prop :=
  (∃ bytes, tree.sight place = .file bytes) ∧
    later.sight place = .nothing

/- What is put at a place and is gone later has been there, or not. -/
theorem PutsFile.cleared
    {bytes : List UInt8}
    {made : FileTree}
    (hPuts : PutsFile place bytes tree made)
    (hGone : later.sight place = .nothing) :
    later.sight place = tree.sight place ∨ IsCleared tree later place := by
  cases hSight : tree.sight place with
  | nothing => exact Or.inl hGone
  | directory => exact absurd hSight hPuts.free
  | file bytes => exact Or.inr ⟨⟨bytes, hSight⟩, hGone⟩

/-
  An attempt to write a file, once the directories around it
  are there: the target and the place of the temporary file
  are the only ones that can change.
-/
structure IsAttempt
    (path temporary : Path)
    (bytes : List UInt8)
    (tree later : FileTree)
    (outcome : Outcome Unit) : Prop where
  written :
    outcome = .ok ⟨⟩ →
      later.locate path = .ok (tree.goal path) ∧
        later.sight (tree.goal path) = .file bytes ∧
        later.sight (tree.goal temporary) = .nothing
  unwritten :
    ∀ fault, outcome = .error fault →
      later.sight (tree.goal path) = tree.sight (tree.goal path)
  others :
    ∀ key, key ≠ tree.goal path → later.sight key = tree.sight key ∨
      key = tree.goal temporary ∧ IsCleared tree later key

section Attempts

variable {path temporary : Path}
variable {bytes : List UInt8}
variable (hApart : tree.goal temporary ≠ tree.goal path)

include hApart

/- An attempt that only takes the temporary file away has failed. -/
theorem isAttempt_of_failed
    (hLater :
      later = tree ∨ ∃ place serial, tree.locate temporary = .ok place ∧
        tree.entry? place = some (.file serial) ∧
        later = tree.drop place)
    (cause : Fault) :
    IsAttempt path temporary bytes tree later (.error cause) := by
  rcases hLater with rfl | ⟨place, serial, hLeads, hFile, rfl⟩
  · exact ⟨nofun, fun _ _ => rfl, fun _ _ => Or.inl rfl⟩
  · have hPlace := goal_of_locate hLeads
    rw [hPlace] at hApart
    refine ⟨nofun, fun _ _ => ?_, fun key _ => ?_⟩
    · rw [sight_drop hFile, if_neg (Ne.symm hApart)]
    · by_cases hKey : key = place
      · refine Or.inr ⟨hKey.trans hPlace.symm, ⟨tree.bytes serial, ?_⟩, ?_⟩
        · rw [hKey, sight_of_file hFile]
        · rw [sight_drop hFile, if_pos hKey]
      · exact Or.inl (by rw [sight_drop hFile, if_neg hKey])

/- An attempt that puts a temporary file and takes it away has failed. -/
theorem isAttempt_of_removed
    {made : FileTree}
    (hPlace : tree.goal temporary = place)
    (hPuts : PutsFile place bytes tree made)
    (hRemoved :
      ∀ key, later.sight key =
        if key = place then .nothing else made.sight key)
    (cause : Fault) :
    IsAttempt path temporary bytes tree later (.error cause) := by
  rw [hPlace] at hApart
  refine ⟨nofun, fun _ _ => ?_, fun key _ => ?_⟩
  · rw [hRemoved, if_neg (Ne.symm hApart),
      hPuts.others _ (Ne.symm hApart)]
  · by_cases hKey : key = place
    · have hGone : later.sight key = .nothing := by
        rw [hRemoved, if_pos hKey]
      subst hKey
      exact (hPuts.cleared hGone).imp_right fun hCleared =>
        ⟨hPlace.symm, hCleared⟩
    · exact Or.inl (by rw [hRemoved, if_neg hKey, hPuts.others key hKey])

/- An attempt that puts a temporary file and moves it has written. -/
theorem isAttempt_of_moved
    {made : FileTree}
    (hPlace : tree.goal temporary = place)
    (hPuts : PutsFile place bytes tree made)
    (hLeads : later.locate path = .ok (tree.goal path))
    (hMoved :
      ∀ key, later.sight key =
        if key = tree.goal path then made.sight place
        else if key = place then .nothing
        else made.sight key) :
    IsAttempt path temporary bytes tree later (.ok ⟨⟩) := by
  rw [hPlace] at hApart
  refine ⟨fun _ => ⟨hLeads, ?_, ?_⟩, nofun, fun key hOther => ?_⟩
  · rw [hMoved, if_pos rfl, hPuts.file]
  · rw [hPlace, hMoved, if_neg hApart, if_pos rfl]
  · by_cases hKey : key = place
    · have hGone : later.sight key = .nothing := by
        rw [hMoved, if_neg hOther, if_pos hKey]
      subst hKey
      exact (hPuts.cleared hGone).imp_right fun hCleared =>
        ⟨hPlace.symm, hCleared⟩
    · exact Or.inl
        (by rw [hMoved, if_neg hOther, if_neg hKey, hPuts.others key hKey])

end Attempts

end FileTree

namespace Disk

open FileTree

variable {tree : FileTree}
variable {path temporary : Path}
variable {place : Location}

------------------------------------------------------------
-- Steps Of An Attempt
------------------------------------------------------------

/- The bytes of a file are seen where it is, if it is nowhere else. -/
theorem write_puts
    (hTree : tree.IsTree)
    {serial : Nat}
    (hFile : tree.entry? place = some (.file serial))
    (bytes : List UInt8) :
    PutsFile place bytes tree (tree.write serial bytes) where
  home := rfl
  readOnly := rfl
  free := by
    rw [sight_of_file hFile]
    exact nofun
  file := by
    have hThere :
        FileTree.entry? (tree.write serial bytes) place =
          some (.file serial) := hFile
    rw [sight_of_file hThere, bytes_write, if_pos rfl]
  others := by
    intro key hKey
    refine sight_congr rfl fun other hOther => ?_
    rw [bytes_write, if_neg]
    rintro rfl
    exact hKey (hTree.single key place other hOther hFile)

/- A new file is seen where it is put, and changes no other one. -/
theorem putFile_puts
    (hTree : tree.IsTree)
    (hNone : tree.entry? place = none)
    (bytes : List UInt8) :
    PutsFile place bytes tree
      (((tree.put place (.file tree.freshSerial)).write
        tree.freshSerial []).write tree.freshSerial bytes) := by
  have hRoot : place ≠ [] := by
    rintro rfl
    cases hNone
  constructor
  case home => rfl
  case readOnly => rfl
  case free =>
    rw [sight_of_none hNone]
    exact nofun
  case file =>
    have hThere :
        FileTree.entry?
            (((tree.put place (.file tree.freshSerial)).write
              tree.freshSerial []).write tree.freshSerial bytes) place =
          some (.file tree.freshSerial) := entry?_put_self hRoot tree _
    rw [sight_of_file hThere, bytes_write, if_pos rfl]
  case others =>
    intro key hKey
    refine sight_congr ?_ fun serial hSerial => ?_
    · exact entry?_put_other hKey tree _
    · have hUsed : serial ≠ tree.freshSerial :=
        (hTree.sound key serial hSerial).ne
      rw [bytes_write, if_neg hUsed, bytes_write, if_neg hUsed]
      rfl

/- To write a file fails and changes nothing, or puts a file. -/
theorem create_puts
    (hTree : tree.IsTree)
    (path : Path)
    (bytes : List UInt8) :
    (∃ fault, create path bytes tree = (.error fault, tree)) ∨
      ∃ place later, locate path tree = (.ok place, tree) ∧
        create path bytes tree = (.ok ⟨⟩, later) ∧
        tree.isReadOnly place = false ∧
        PutsFile place bytes tree later := by
  unfold create openFile
  rcases locate_cases path tree with
    ⟨fault, hFault⟩ | ⟨place, -, hPlace⟩
  · refine Or.inl ⟨fault, ?_⟩
    rw [Stateful.bind_apply, Stateful.bind_of_error hFault]
  · rw [Stateful.bind_apply, Stateful.bind_of_ok hPlace,
      Stateful.bind_apply, Stateful.get_apply]
    dsimp only
    cases hEntry : tree.entry? place with
    | none =>
        by_cases hAround :
            tree.entry? place.dropLast ≠ some .directory
        · refine Or.inl ⟨.file .missing path.text none, ?_⟩
          rw [if_pos hAround]
          rfl
        · cases hReadOnly : tree.isReadOnly place with
          | true =>
              refine Or.inl ⟨.file .readOnly path.text none, ?_⟩
              rw [if_neg hAround]
              rfl
          | false =>
              refine Or.inr ⟨place, _, hPlace, ?_, hReadOnly,
                putFile_puts hTree hEntry bytes⟩
              rw [if_neg hAround]
              rfl
    | some entry =>
        cases entry with
        | directory => exact Or.inl ⟨.file .isDirectory path.text none, rfl⟩
        | file serial =>
            cases hReadOnly : tree.isReadOnly place with
            | true => exact Or.inl ⟨.file .readOnly path.text none, rfl⟩
            | false =>
                exact Or.inr ⟨place, _, hPlace, rfl, hReadOnly,
                  write_puts hTree hEntry bytes⟩

/- To move a file fails as the file system does, or moves it. -/
theorem rename_result
    (source target : Path)
    (tree : FileTree) :
    (∃ fault, fault.family.isSystem = true ∧
        rename source target tree = (.error fault, tree)) ∨
      ∃ start finish entry, tree.locate source = .ok start ∧
        tree.locate target = .ok finish ∧
        tree.entry? start = some entry ∧
        (start ≠ finish → tree.entry? finish ≠ some .directory) ∧
        rename source target tree =
          (.ok ⟨⟩,
            if start = finish then tree
            else (tree.drop start).put finish entry) := by
  have hStop :
      ∀ fault, ((Fault.file fault source.text
        (some target.text)).family).isSystem = true := by
    intro fault
    cases fault <;> rfl
  unfold rename
  rw [Stateful.bind_apply, Stateful.get_apply]
  dsimp only
  cases hStart : tree.locate source with
  | error fault => exact Or.inl ⟨_, hStop fault, rfl⟩
  | ok start =>
      cases hFinish : tree.locate target with
      | error fault => exact Or.inl ⟨_, hStop fault, rfl⟩
      | ok finish =>
          dsimp only
          split
          · exact Or.inl ⟨_, hStop _, rfl⟩
          · cases hEntry : tree.entry? start with
            | none => exact Or.inl ⟨_, hStop _, rfl⟩
            | some entry =>
                dsimp only
                split
                · rename_i hSame
                  refine Or.inr ⟨start, finish, entry, rfl, rfl, hEntry,
                    fun hOther => absurd hSame hOther, ?_⟩
                  rw [if_pos hSame]
                  rfl
                · rename_i hOther
                  split
                  · exact Or.inl ⟨_, hStop _, rfl⟩
                  · rename_i hFree
                    split
                    · exact Or.inl ⟨_, hStop _, rfl⟩
                    · refine Or.inr ⟨start, finish, entry, rfl, rfl, hEntry,
                        fun _ => hFree, ?_⟩
                      rw [if_neg hOther]
                      rfl

/- To take a file away succeeds where the file is found and can go. -/
theorem undo_removes
    (hPlace : locate temporary tree = (.ok place, tree))
    {serial : Nat}
    (hFile : tree.entry? place = some (.file serial))
    (hWritable : tree.isReadOnly place = false)
    (path : Path)
    (fault : Fault) :
    ∃ cause, undo path temporary fault tree =
      (.error cause, tree.drop place) := by
  rcases locate_ok_iff.mp hPlace with ⟨hFlaw, hLeads⟩
  have hFound : exists? temporary tree = (.ok true, tree) := by
    unfold exists?
    rw [Stateful.bind_apply, status?_apply, hFlaw, hLeads]
    dsimp only [Option.isSome_none, Bool.false_eq_true, if_false]
    rw [hFile]
    rfl
  have hRemove : remove temporary tree = (.ok ⟨⟩, tree.drop place) := by
    unfold remove
    rw [Stateful.bind_of_ok hPlace, Stateful.bind_apply,
      Stateful.get_apply]
    dsimp only
    rw [hWritable, hFile]
    rfl
  refine ⟨.writeFailed path.text fault.message, ?_⟩
  unfold undo
  rw [Stateful.bind_of_ok hFound]
  exact Stateful.bind_of_ok hRemove _

/- To take a file away fails and changes nothing, or takes it away. -/
theorem remove_result
    (path : Path)
    (tree : FileTree) :
    (∃ fault, remove path tree = (.error fault, tree)) ∨
      ∃ place serial, tree.locate path = .ok place ∧
        tree.entry? place = some (.file serial) ∧
        remove path tree = (.ok ⟨⟩, tree.drop place) := by
  unfold remove
  rcases locate_cases path tree with
    ⟨fault, hFault⟩ | ⟨place, hLeads, hPlace⟩
  · exact Or.inl ⟨fault, Stateful.bind_of_error hFault _⟩
  · rw [Stateful.bind_of_ok hPlace, Stateful.bind_apply,
      Stateful.get_apply]
    dsimp only
    split
    · exact Or.inl ⟨.file .readOnly path.text none, rfl⟩
    · cases hEntry : tree.entry? place with
      | none => exact Or.inl ⟨.file .missing path.text none, rfl⟩
      | some entry =>
          cases entry with
          | directory =>
              exact Or.inl ⟨.file .isDirectory path.text none, rfl⟩
          | file serial => exact Or.inr ⟨place, serial, hLeads, hEntry, rfl⟩

/-
  To undo an attempt is to fail in any case. At most it takes
  a file away that is in the place of the temporary one.
-/
theorem undo_cases
    (path temporary : Path)
    (fault : Fault)
    (tree : FileTree) :
    ∃ cause later, undo path temporary fault tree = (.error cause, later) ∧
      (later = tree ∨ ∃ place serial, tree.locate temporary = .ok place ∧
        tree.entry? place = some (.file serial) ∧
        later = tree.drop place) := by
  have hKeeps : Maintains (· = tree) (exists? temporary) :=
    (status?_maintains temporary).bind fun _ => Maintains.pure _
  have hTree := hKeeps tree rfl
  unfold undo
  rw [Stateful.bind_apply]
  revert hTree
  rcases exists? temporary tree with ⟨outcome, later⟩
  rintro rfl
  cases outcome with
  | error cause => exact ⟨cause, later, rfl, Or.inl rfl⟩
  | ok found =>
      cases found with
      | false => exact ⟨_, later, rfl, Or.inl rfl⟩
      | true =>
          rcases remove_result temporary later with
            ⟨cause, hKept⟩ | ⟨place, serial, hLeads, hFile, hGone⟩
          · exact ⟨cause, later, Stateful.bind_of_error hKept _, Or.inl rfl⟩
          · exact ⟨.writeFailed path.text fault.message, _,
              Stateful.bind_of_ok hGone _,
              Or.inr ⟨place, serial, hLeads, hFile, rfl⟩⟩

------------------------------------------------------------
-- Attempts
------------------------------------------------------------

/- An attempt to write, once the directories around the target are there. -/
theorem attempt_isAttempt
    (hTree : tree.IsTree)
    (hApart : tree.goal temporary ≠ tree.goal path)
    (bytes : List UInt8)
    {later : FileTree}
    {outcome : Outcome Unit}
    (hRun :
      (tryCatch
        (do
          create temporary bytes
          rename temporary path)
        (fun fault =>
          if fault.family.isSystem then undo path temporary fault
          else throw fault) : Disk Unit) tree = (outcome, later)) :
    IsAttempt path temporary bytes tree later outcome := by
  rw [Stateful.tryCatch_apply] at hRun
  rcases create_puts hTree temporary bytes with
    ⟨fault, hFailed⟩ | ⟨place, made, hPlace, hMade, hWritable, hPuts⟩
  · rw [Stateful.bind_of_error hFailed] at hRun
    dsimp only at hRun
    split at hRun
    · rcases undo_cases path temporary fault tree with
        ⟨cause, last, hUndo, hLast⟩
      rw [hUndo] at hRun
      cases hRun
      exact isAttempt_of_failed hApart hLast cause
    · cases hRun
      exact isAttempt_of_failed hApart (Or.inl rfl) fault
  · rcases locate_ok_iff.mp hPlace with ⟨hFlaw, hLeads⟩
    have hGoal := goal_of_locate hLeads
    have hKeeps := hPuts.keepsDirectories
    rcases exists_file_of_sight hPuts.file with ⟨serial, hFile⟩
    rw [Stateful.bind_of_ok hMade] at hRun
    rcases rename_result temporary path made with
      ⟨fault, hSystem, hFailed⟩ |
        ⟨start, finish, entry, hStart, hFinish, hEntry, hFree, hMoved⟩
    · have hStill : locate temporary made = (.ok place, made) :=
        locate_ok_iff.mpr ⟨hFlaw, hKeeps.locate hLeads⟩
      rcases undo_removes hStill hFile
          ((hKeeps.isReadOnly_eq place).trans hWritable) path fault with
        ⟨cause, hUndo⟩
      rw [hFailed] at hRun
      dsimp only at hRun
      rw [if_pos hSystem, hUndo] at hRun
      cases hRun
      exact isAttempt_of_removed hApart hGoal hPuts (sight_drop hFile) cause
    · -- the temporary file is where it was put, and not at the target
      have hSame := hStart.symm.trans (hKeeps.locate hLeads)
      cases hSame
      have hTarget : tree.goal path = finish :=
        (goal_of_home hKeeps.home.symm path).trans (goal_of_locate hFinish)
      have hOther : finish ≠ place := by
        rw [← hTarget, ← hGoal]
        exact Ne.symm hApart
      rw [hFile] at hEntry
      cases hEntry
      rw [hMoved, if_neg (Ne.symm hOther)] at hRun
      cases hRun
      have hFree := hFree (Ne.symm hOther)
      apply isAttempt_of_moved hApart hGoal hPuts
      · rw [hTarget]
        exact (keepsDirectories_of_move hFile hFree).locate hFinish
      · rw [hTarget]
        exact sight_move hFile hFree

end Disk

end Joinery
