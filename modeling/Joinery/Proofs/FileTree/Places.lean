import Joinery.Proofs.FileTree.Steps

/-
  Where a path leads to can be told from the path, if it leads
  anywhere. Two paths that lead to different files keep doing
  so while directories are made. A file that is at none of
  some places gets to none of them while a text is written in
  one piece between these places.

  Key definitions include:
    * `FileTree.goal`
    * `FileTree.AreApart`
    * `FileTree.Avoids`

  Key theorems include:
    * `FileTree.goal_of_locate`
    * `Disk.create_avoids`
    * `Disk.writeTextAtomically_avoids`
-/

namespace Joinery

namespace FileTree

------------------------------------------------------------
-- Goals
------------------------------------------------------------

/- The place at the end of some parts, whatever is on the way. -/
def reach
    (place : Location) : List Text → Location
  | [] => place
  | part :: rest =>
      if part = ".." then reach place.dropLast rest
      else reach (place ++ [shownName part]) rest

/- The place that a path leads to, if all on the way is there. -/
def goal
    (tree : FileTree)
    (path : Path) : Location :=
  reach (if path.root = "" then tree.home else []) path.parts

theorem reach_of_walk
    {tree : FileTree}
    {place last : Location}
    {parts : List Text}
    (hWalk : tree.walk place parts = .ok last) :
    reach place parts = last := by
  induction parts generalizing place with
  | nil =>
      rw [walk] at hWalk
      cases hWalk
      rfl
  | cons part rest ih =>
      rw [walk] at hWalk
      rw [reach]
      split at hWalk
      · cases hWalk
      · cases hWalk
      · split at hWalk
        · rename_i hUp
          rw [if_pos hUp]
          exact ih hWalk
        · rename_i hDown
          rw [if_neg hDown]
          split at hWalk
          · cases hWalk
          · exact ih hWalk

/- A path that leads to a place leads to its goal. -/
theorem goal_of_locate
    {tree : FileTree}
    {path : Path}
    {place : Location}
    (hLeads : tree.locate path = .ok place) :
    tree.goal path = place := by
  rw [locate] at hLeads
  split at hLeads
  · cases hLeads
  · exact reach_of_walk hLeads

theorem goal_of_home
    {tree other : FileTree}
    (hHome : tree.home = other.home)
    (path : Path) :
    tree.goal path = other.goal path := by
  rw [goal, goal, hHome]

/- The places at which a text is written in one piece, and before that. -/
def writtenAt
    (tree : FileTree)
    (path : Path) : List Location :=
  tree.goal path ::
    match Disk.temporary path Disk.temporarySuffix with
    | .ok temporary => [tree.goal temporary]
    | .error _ => []

theorem writtenAt_of_home
    {tree other : FileTree}
    (hHome : tree.home = other.home)
    (path : Path) :
    tree.writtenAt path = other.writtenAt path := by
  rw [writtenAt, writtenAt, goal_of_home hHome]
  cases Disk.temporary path Disk.temporarySuffix with
  | error fault => rfl
  | ok temporary =>
      dsimp only
      rw [goal_of_home hHome]

theorem mem_writtenAt
    (tree : FileTree)
    (path : Path) :
    tree.goal path ∈ tree.writtenAt path :=
  List.mem_cons_self ..

theorem mem_writtenAt_temporary
    (tree : FileTree)
    {path temporary : Path}
    (hTemporary :
      Disk.temporary path Disk.temporarySuffix = .ok temporary) :
    tree.goal temporary ∈ tree.writtenAt path := by
  rw [writtenAt, hTemporary]
  exact List.mem_cons_of_mem _ (List.mem_singleton_self _)

------------------------------------------------------------
-- Places Apart
------------------------------------------------------------

/- Two places are different, and no file is at both. -/
structure AreApart
    (tree : FileTree)
    (place other : Location) : Prop where
  places : place ≠ other
  files :
    ∀ serial, tree.entry? place = some (.file serial) →
      tree.entry? other ≠ some (.file serial)

/- Where a directory is made, there is no file. -/
theorem entry?_of_putDirectory
    {tree : FileTree}
    {place key : Location}
    {serial : Nat}
    (hEntry :
      FileTree.entry? (tree.put place .directory) key =
        some (.file serial)) :
    tree.entry? key = some (.file serial) := by
  rw [entry?_put] at hEntry
  split at hEntry
  · cases hEntry
  · split at hEntry
    · cases hEntry
    · exact hEntry

theorem AreApart.putDirectory
    {tree : FileTree}
    {first second : Location}
    (hApart : AreApart tree first second)
    (place : Location) :
    AreApart (tree.put place .directory) first second where
  places := hApart.places
  files := fun serial hFirst hSecond =>
    hApart.files serial (entry?_of_putDirectory hFirst)
      (entry?_of_putDirectory hSecond)

theorem IsSound.putDirectory
    {tree : FileTree}
    (hSound : tree.IsSound)
    (place : Location) :
    IsSound (tree.put place .directory) :=
  fun key serial hEntry =>
    hSound key serial (entry?_of_putDirectory hEntry)

------------------------------------------------------------
-- Files Avoided
------------------------------------------------------------

/- A file is in use, and at none of some places. -/
structure Avoids
    (tree : FileTree)
    (serial : Nat)
    (places : List Location) : Prop where
  used : serial < tree.freshSerial
  absent : ∀ place ∈ places, tree.entry? place ≠ some (.file serial)

namespace Avoids

variable {tree : FileTree}
variable {serial : Nat}
variable {places : List Location}

theorem putDirectory
    (hAvoids : Avoids tree serial places)
    (place : Location) :
    Avoids (tree.put place .directory) serial places where
  used := hAvoids.used
  absent := fun key hMem hEntry =>
    hAvoids.absent key hMem (entry?_of_putDirectory hEntry)

theorem write
    (hAvoids : Avoids tree serial places)
    (number : Nat)
    (bytes : List UInt8) :
    Avoids (tree.write number bytes) serial places where
  used := by
    rw [freshSerial_write]
    exact lt_max_of_lt_left hAvoids.used
  absent := hAvoids.absent

/- Another file may be put anywhere. -/
theorem putOther
    (hAvoids : Avoids tree serial places)
    (place : Location)
    {entry : Entry}
    (hOther : entry ≠ .file serial) :
    Avoids (tree.put place entry) serial places where
  used := hAvoids.used
  absent := by
    intro key hMem hEntry
    rw [entry?_put] at hEntry
    split at hEntry
    · cases hEntry
    · split at hEntry
      · exact hOther (Option.some.inj hEntry)
      · exact hAvoids.absent key hMem hEntry

theorem drop
    (hAvoids : Avoids tree serial places)
    (place : Location) :
    Avoids (tree.drop place) serial places where
  used := hAvoids.used
  absent := by
    intro key hMem hEntry
    rw [entry?_drop] at hEntry
    split at hEntry
    · cases hEntry
    · split at hEntry
      · cases hEntry
      · exact hAvoids.absent key hMem hEntry

end Avoids

end FileTree

namespace Disk

open FileTree

/- A new file is no file that is in use. -/
theorem create_avoids
    {home : Location}
    {serial : Nat}
    {places : List Location}
    (path : Path)
    (bytes : List UInt8) :
    Maintains
      (fun tree => tree.home = home ∧ Avoids tree serial places)
      (create path bytes) := by
  rintro tree ⟨hHome, hAvoids⟩
  rcases create_cases path bytes tree with
    hSame | ⟨number, hWritten⟩ | ⟨place, hMade⟩
  · rw [hSame]
    exact ⟨hHome, hAvoids⟩
  · rw [hWritten]
    exact ⟨hHome, hAvoids.write number bytes⟩
  · have hOther : Entry.file tree.freshSerial ≠ .file serial := by
      rintro ⟨⟩
      exact lt_irrefl _ hAvoids.used
    rw [hMade]
    exact
      ⟨hHome, ((hAvoids.putOther place hOther).write _ _).write _ bytes⟩

/-
  A file that is neither at the target of a text nor at the
  place of its temporary file gets to neither of them.
-/
theorem writeTextAtomically_avoids
    {tree : FileTree}
    {path : Path}
    {serial : Nat}
    (hAvoids : Avoids tree serial (tree.writtenAt path))
    (text : Text)
    (encoding : String) :
    (writeTextAtomically path text encoding tree).2.home = tree.home ∧
      Avoids (writeTextAtomically path text encoding tree).2 serial
        (tree.writtenAt path) := by
  have hMaintains :
      Maintains
        (fun later =>
          later.home = tree.home ∧
            Avoids later serial (tree.writtenAt path))
        (writeTextAtomically path text encoding) := by
    apply writeTextAtomically_maintains
    · rintro later place ⟨hHome, hLater⟩
      exact ⟨hHome, hLater.putDirectory place⟩
    · exact fun temporary bytes _ => create_avoids temporary bytes
    · rintro temporary hTemporary later ⟨hHome, hLater⟩
      rcases rename_cases temporary path later with
        hSame | ⟨start, finish, entry, hStart, -, hEntry, hMoved⟩
      · rw [hSame]
        exact ⟨hHome, hLater⟩
      · rw [hMoved]
        refine ⟨hHome, (hLater.drop start).putOther finish ?_⟩
        rintro rfl
        refine hLater.absent start ?_ hEntry
        rw [← goal_of_locate hStart, goal_of_home hHome]
        exact mem_writtenAt_temporary tree hTemporary
    · rintro later place ⟨hHome, hLater⟩
      exact ⟨hHome, hLater.drop place⟩
  exact hMaintains tree ⟨rfl, hAvoids⟩

end Disk

end Joinery
