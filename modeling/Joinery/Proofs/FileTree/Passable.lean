import Joinery.Proofs.FileTree.Saving
import Joinery.Proofs.FileTree.Sights

/-
  All directories to a path are made if no file is at the
  place of one of them, and those that are missing can be
  made. A path on the way either leads somewhere, or one
  before it is missing; and that is made first.

  Key definitions include:
    * `Path.Fits`
    * `FileTree.IsPassable`

  Key theorems include:
    * `Path.Fits.toFront`
    * `FileTree.IsPassable.locate_cases`
    * `Disk.makeDirectory_passable`
-/

namespace Joinery

------------------------------------------------------------
-- Paths That Fit
------------------------------------------------------------

/-
  The file system can follow a path: the path has no flaw,
  and neither it nor any of its names is too long.
-/
structure Path.Fits
    (path : Path) : Prop where
  flaw : Disk.flaw? path = none
  length : FileTree.byteCount path.text ≤ FileTree.longestPath
  names :
    ∀ part ∈ path.parts, FileTree.byteCount part ≤ FileTree.longestName

/- What a name begins with is a name, and not a longer one. -/
theorem Encoding.fileName?_of_prefix
    {s t : Text}
    (hBegins : s.letters <+: t.letters)
    {bytes : List UInt8}
    (hBytes : fileName? t = some bytes) :
    ∃ first, fileName? s = some first ∧ first.length ≤ bytes.length := by
  rcases hBegins with ⟨rest, hLetters⟩
  rw [fileName?, ← hLetters, List.mapM_append, Option.map_eq_some_iff]
    at hBytes
  rcases hBytes with ⟨all, hAll, rfl⟩
  cases hFirst : s.letters.mapM fileNameLetter? with
  | none =>
      rw [hFirst] at hAll
      cases hAll
  | some firsts =>
      cases hRest : rest.mapM fileNameLetter? with
      | none =>
          rw [hFirst, hRest] at hAll
          cases hAll
      | some others =>
          rw [hFirst, hRest] at hAll
          cases hAll
          refine ⟨firsts.flatten, by rw [fileName?, hFirst]; rfl, ?_⟩
          rw [List.flatten_append, List.length_append]
          exact Nat.le_add_right ..

namespace Path

variable {root : String}
variable {front parts : List Text}

/- The text of a path begins as that of a path on the way to it. -/
theorem text_front
    (hFront : front <+: parts)
    (hSome : ¬ (root = "" ∧ front = [])) :
    (Path.text ⟨root, front⟩).letters <+:
      (Path.text ⟨root, parts⟩).letters := by
  rcases hFront with ⟨rest, rfl⟩
  have hMore : ¬ (root = "" ∧ front ++ rest = []) := fun hNone =>
    hSome ⟨hNone.1, (List.append_eq_nil_iff.mp hNone.2).1⟩
  rw [text, if_neg hSome, text, if_neg hMore, Text.letters_append,
    Text.letters_append, List.prefix_append_right_inj]
  cases front with
  | nil => exact List.nil_prefix ..
  | cons t others =>
      rw [List.cons_append, Text.joined, Text.joined,
        Text.letters_foldl_separated, Text.letters_foldl_separated,
        List.flatMap_append, ← List.append_assoc]
      exact List.prefix_append ..

/- What leads on the way to a path that fits does so, too. -/
theorem Fits.toFront
    (hFits : Fits ⟨root, parts⟩)
    (hFront : front <+: parts) :
    Fits ⟨root, front⟩ := by
  have hNames :
      ∀ part ∈ front, FileTree.byteCount part ≤ FileTree.longestName :=
    fun part hMem => hFits.names part (hFront.subset hMem)
  by_cases hNone : root = "" ∧ front = []
  · rcases hNone with ⟨rfl, rfl⟩
    exact ⟨by decide +kernel, by decide +kernel, hNames⟩
  · have hBegins := text_front hFront hNone
    rcases (Disk.flaw?_eq_none_iff _).mp hFits.flaw with ⟨hSome, hNull⟩
    rcases Option.isSome_iff_exists.mp hSome with ⟨bytes, hBytes⟩
    rcases Encoding.fileName?_of_prefix hBegins hBytes with
      ⟨first, hFirst, hShorter⟩
    refine ⟨(Disk.flaw?_eq_none_iff _).mpr ⟨?_, ?_⟩, ?_, hNames⟩
    · rw [hFirst]
      rfl
    · exact fun hMem => hNull (hBegins.subset hMem)
    · have hLength := hFits.length
      rw [FileTree.byteCount, hBytes] at hLength
      rw [FileTree.byteCount, hFirst]
      exact hShorter.trans hLength

end Path

namespace FileTree

variable {tree later : FileTree}
variable {place : Location}
variable {root : String}
variable {front parts : List Text}
variable {last : Text}
variable {path : Path}

------------------------------------------------------------
-- Paths Without A File In The Way
------------------------------------------------------------

/-
  A path can be made a directory: it fits, no file is at its
  place or on the way to it, and where nothing is, there can
  be something.
-/
structure IsPassable
    (tree : FileTree)
    (path : Path) : Prop where
  rooted : tree.IsRooted
  home : tree.entry? tree.home = some .directory
  fits : path.Fits
  clear :
    ∀ place, tree.IsOnWay path place →
      ∀ serial, tree.entry? place ≠ some (.file serial)
  writable :
    ∀ place, tree.IsOnWay path place → tree.entry? place = none →
      tree.isReadOnly place = false

/- A directory in a directory leaves everything in one. -/
theorem IsRooted.putDirectory
    (hRooted : tree.IsRooted)
    (hNone : tree.entry? place = none)
    (hAround : tree.entry? place.dropLast = some .directory) :
    IsRooted (tree.put place .directory) := by
  have hFree : tree.entry? place ≠ some .directory := by
    rw [hNone]
    exact nofun
  have hKeeps := KeepsDirectories.put hFree .directory
  intro key hKey
  by_cases hSame : key = place
  · rw [hSame]
    exact hKeeps.directory _ hAround
  · rw [entry?_put_other hSame] at hKey
    exact hKeeps.directory _ (hRooted key hKey)

/- If no file is in the way, a walk comes to its end or misses a directory. -/
theorem walk_cases
    {start : Location}
    (hNames : ∀ part ∈ parts, byteCount part ≤ longestName)
    (hClear :
      ∀ front, front <+: parts →
        ∀ serial, tree.entry? (reach start front) ≠ some (.file serial)) :
    (∃ place, tree.walk start parts = .ok place) ∨
      tree.walk start parts = .error .missing := by
  induction parts generalizing start with
  | nil => exact Or.inl ⟨start, rfl⟩
  | cons part rest ih =>
      have hRest := fun other hMem =>
        hNames other (List.mem_cons_of_mem part hMem)
      have hFurther :
          ∀ front, front <+: rest →
            ∀ serial,
              tree.entry? (reach start (part :: front)) ≠
                some (.file serial) :=
        fun front hFront =>
          hClear _ ((List.prefix_cons_inj part).mpr hFront)
      rw [walk]
      cases hStart : tree.entry? start with
      | none => exact Or.inr rfl
      | some entry =>
          cases entry with
          | file serial =>
              exact absurd hStart (hClear [] (List.nil_prefix ..) serial)
          | directory =>
              dsimp only
              have hShort := hNames part (List.mem_cons_self ..)
              rw [if_neg (not_lt.mpr hShort)]
              simp only [reach] at hFurther
              split
              · rename_i hUp
                simp only [if_pos hUp] at hFurther
                exact ih hRest hFurther
              · rename_i hDown
                simp only [if_neg hDown] at hFurther
                exact ih hRest hFurther

/- A walk to a directory can go one step further. -/
theorem walk_concat
    {start : Location}
    (hWalk : tree.walk start parts = .ok place)
    (hPlace : tree.entry? place = some .directory)
    (hShort : byteCount last ≤ longestName) :
    ∃ next, tree.walk start (parts ++ [last]) = .ok next := by
  induction parts generalizing start with
  | nil =>
      cases hWalk
      rw [List.nil_append, walk, hPlace]
      dsimp only
      rw [if_neg (not_lt.mpr hShort)]
      split
      · exact ⟨_, rfl⟩
      · exact ⟨_, rfl⟩
  | cons part rest ih =>
      rw [List.cons_append]
      rw [walk] at hWalk ⊢
      split at hWalk
      · cases hWalk
      · cases hWalk
      · split at hWalk
        · rename_i hUp
          rw [if_pos hUp]
          exact ih hWalk
        · rename_i hDown
          rw [if_neg hDown]
          split at hWalk
          · cases hWalk
          · rename_i hNoLonger
            rw [if_neg hNoLonger]
            exact ih hWalk

/- Below a directory a path leads somewhere. -/
theorem locate_concat
    (hFits : Path.Fits ⟨root, parts ++ [last]⟩)
    (hLeads : tree.locate ⟨root, parts⟩ = .ok place)
    (hPlace : tree.entry? place = some .directory) :
    ∃ next, tree.locate ⟨root, parts ++ [last]⟩ = .ok next := by
  rw [locate] at hLeads ⊢
  rw [if_neg (not_lt.mpr hFits.length)]
  split at hLeads
  · cases hLeads
  · exact walk_concat hLeads hPlace
      (hFits.names last (List.mem_append_right _ (List.mem_singleton_self _)))

namespace IsPassable

theorem toFront
    (hPass : tree.IsPassable ⟨root, parts⟩)
    (hFront : front <+: parts) :
    tree.IsPassable ⟨root, front⟩ where
  rooted := hPass.rooted
  home := hPass.home
  fits := hPass.fits.toFront hFront
  clear := by
    rintro place ⟨first, hFirst, hPlace⟩
    exact hPass.clear place ⟨first, hFirst.trans hFront, hPlace⟩
  writable := by
    rintro place ⟨first, hFirst, hPlace⟩
    exact hPass.writable place ⟨first, hFirst.trans hFront, hPlace⟩

/- More directories are not in the way. -/
theorem adds
    {places : Location → Prop}
    (hPass : tree.IsPassable path)
    (hAdds : AddsDirectories places tree later)
    (hRooted : later.IsRooted) :
    later.IsPassable path where
  rooted := hRooted
  home := by
    rw [hAdds.home]
    rcases hAdds.entry tree.home with hSame | ⟨-, -, hMade⟩
    · rw [hSame, hPass.home]
    · exact hMade
  fits := hPass.fits
  clear := by
    rintro place ⟨first, hFirst, rfl⟩ serial hFile
    refine hPass.clear _ ⟨first, hFirst, ?_⟩ serial
      (hAdds.entry?_of_file hFile)
    exact goal_of_home hAdds.home.symm _
  writable := by
    rintro place ⟨first, hFirst, rfl⟩ hNone
    rw [hAdds.isReadOnly_eq]
    refine hPass.writable _ ⟨first, hFirst, ?_⟩ ?_
    · exact goal_of_home hAdds.home.symm _
    · rcases hAdds.entry (later.goal ⟨path.root, first⟩) with
        hSame | ⟨-, hBefore, -⟩
      · rw [← hSame, hNone]
      · exact hBefore

/- The path leads somewhere, or a directory around it is missing. -/
theorem locate_cases
    (hPass : tree.IsPassable path) :
    (∃ place, tree.locate path = .ok place) ∨
      tree.locate path = .error .missing := by
  rw [locate, if_neg (not_lt.mpr hPass.fits.length)]
  refine walk_cases hPass.fits.names fun front hFront => ?_
  exact hPass.clear _ ⟨front, hFront, rfl⟩

/- It is not a file that the path leads to. -/
theorem not_file
    (hPass : tree.IsPassable path)
    (hLeads : tree.locate path = .ok place)
    (serial : Nat) :
    tree.entry? place ≠ some (.file serial) := by
  refine hPass.clear place ⟨path.parts, List.prefix_refl _, ?_⟩ serial
  exact goal_of_locate hLeads

/- If it leads to nothing, that is in a directory. -/
theorem around
    (hPass : tree.IsPassable path)
    (hLeads : tree.locate path = .ok place)
    (hNone : tree.entry? place = none) :
    tree.entry? place.dropLast = some .directory := by
  refine hPass.rooted.around (fun hParts => ?_) hLeads
  have hStart : (if path.root = "" then tree.home else []) = place := by
    have hGoal := goal_of_locate hLeads
    rw [goal, hParts] at hGoal
    exact hGoal
  split at hStart
  · rw [← hStart, hPass.home] at hNone
    cases hNone
  · rw [← hStart] at hNone
    cases hNone

end IsPassable

end FileTree

namespace Disk

open FileTree

variable {tree : FileTree}
variable {path : Path}
variable {place : Location}

------------------------------------------------------------
-- Making Directories
------------------------------------------------------------

theorem isDirectory?_of_entry
    (hPlace : locate path tree = (.ok place, tree))
    (hEntry : tree.entry? place = some .directory) :
    (isDirectory? path tree).1 = .ok true := by
  rcases locate_ok_iff.mp hPlace with ⟨hFlaw, hLeads⟩
  rw [isDirectory?_apply, status?_apply, hFlaw, hLeads]
  dsimp only [Option.isSome_none, Bool.false_eq_true, if_false]
  rw [hEntry]
  rfl

/- A directory is made in a directory. -/
theorem makeOne_rooted
    (path : Path) :
    Maintains IsRooted (makeOne path) := by
  intro tree hRooted
  unfold makeOne
  rcases locate_cases path tree with
    ⟨fault, hFault⟩ | ⟨place, -, hPlace⟩
  · rw [Stateful.bind_of_error hFault]
    exact hRooted
  · rw [Stateful.bind_of_ok hPlace, Stateful.bind_apply,
      Stateful.get_apply]
    dsimp only
    split
    · exact hRooted
    · rename_i hFree
      split
      · exact hRooted
      · rename_i hAround
        split
        · exact hRooted
        · exact hRooted.putDirectory
            (Option.not_isSome_iff_eq_none.mp hFree) (not_not.mp hAround)

theorem makeParents_rooted
    (root : String)
    (parts : List Text) :
    Maintains IsRooted (makeParents root parts) :=
  makeParents_maintains fun _ _ => makeOne_rooted _

/- Where nothing is in a directory, another one is made if it can be. -/
theorem makeOrAccept_new
    (hPlace : locate path tree = (.ok place, tree))
    (hNone : tree.entry? place = none)
    (hAround : tree.entry? place.dropLast = some .directory)
    (hWritable : tree.isReadOnly place = false) :
    ∃ later, makeOrAccept path tree = (.ok ⟨⟩, later) ∧
      (isDirectory? path later).1 = .ok true := by
  have hMade :
      makeOne path tree = (.ok ⟨⟩, tree.put place .directory) := by
    unfold makeOne
    rw [Stateful.bind_of_ok hPlace, Stateful.bind_apply,
      Stateful.get_apply]
    dsimp only
    rw [hNone, hAround, hWritable]
    rfl
  have hBelow : place ≠ [] := by
    rintro rfl
    cases hNone
  have hFree : tree.entry? place ≠ some .directory := by
    rw [hNone]
    exact nofun
  rcases locate_ok_iff.mp hPlace with ⟨hFlaw, hLeads⟩
  have hFound :
      locate path (tree.put place .directory) =
        (.ok place, tree.put place .directory) :=
    locate_ok_iff.mpr ⟨hFlaw, (KeepsDirectories.put hFree _).locate hLeads⟩
  refine ⟨tree.put place .directory, ?_, ?_⟩
  · unfold makeOrAccept
    rw [Stateful.tryCatch_apply, hMade]
  · exact isDirectory?_of_entry hFound
      (entry?_put_self hBelow tree .directory)

/- Where a directory is missing on the way, that is what is reported. -/
theorem makeOrAccept_missing
    (hFlaw : flaw? path = none)
    (hMissing : tree.locate path = .error .missing) :
    makeOrAccept path tree =
      (.error (.file .missing path.text none), tree) := by
  have hOne :
      makeOne path tree =
        (.error (.file .missing path.text none), tree) := by
    unfold makeOne
    rw [Stateful.bind_apply, locate_apply, hFlaw, hMissing]
  have hNone : isDirectory? path tree = (.ok false, tree) := by
    rw [isDirectory?_apply, status?_apply, hFlaw, hMissing]
    rfl
  unfold makeOrAccept
  rw [Stateful.tryCatch_apply, hOne]
  dsimp only
  rw [Stateful.bind_of_ok hNone]
  rfl

/-
  If no file is in the way of a path, it is made a directory,
  unless one that leads to it is missing.
-/
theorem makeOrAccept_passable
    (hPass : tree.IsPassable path) :
    (∃ later, makeOrAccept path tree = (.ok ⟨⟩, later) ∧
        (isDirectory? path later).1 = .ok true) ∨
      tree.locate path = .error .missing ∧
        makeOrAccept path tree =
          (.error (.file .missing path.text none), tree) := by
  rcases hPass.locate_cases with ⟨place, hLeads⟩ | hMissing
  · have hPlace : locate path tree = (.ok place, tree) :=
      locate_ok_iff.mpr ⟨hPass.fits.flaw, hLeads⟩
    cases hEntry : tree.entry? place with
    | none =>
        have hOnWay : tree.IsOnWay path place :=
          ⟨path.parts, List.prefix_refl _, goal_of_locate hLeads⟩
        exact Or.inl
          (makeOrAccept_new hPlace hEntry (hPass.around hLeads hEntry)
            (hPass.writable place hOnWay hEntry))
    | some entry =>
        cases entry with
        | file serial => exact absurd hEntry (hPass.not_file hLeads serial)
        | directory =>
            have hThere := isDirectory?_of_entry hPlace hEntry
            exact Or.inl ⟨tree, makeOrAccept_of_directory hThere, hThere⟩
  · exact Or.inr
      ⟨hMissing, makeOrAccept_missing hPass.fits.flaw hMissing⟩

/- If no file is in the way, all directories to a path are made. -/
theorem makeParents_passable
    {root : String}
    {parts : List Text}
    (hPass : tree.IsPassable ⟨root, parts.reverse⟩) :
    ∃ later, makeParents root parts tree = (.ok ⟨⟩, later) ∧
      (isDirectory? ⟨root, parts.reverse⟩ later).1 = .ok true := by
  induction parts with
  | nil =>
      rcases makeOrAccept_passable hPass with hDone | ⟨hMissing, -⟩
      · exact hDone
      · rw [FileTree.locate, if_neg (not_lt.mpr hPass.fits.length)]
          at hMissing
        cases hMissing
  | cons part outer ih =>
      rw [makeParents]
      rcases makeOrAccept_passable hPass with
        ⟨later, hMade, hThere⟩ | ⟨-, hMissing⟩
      · refine ⟨later, ?_, hThere⟩
        rw [Stateful.tryCatch_apply, hMade]
      · have hReverse : (part :: outer).reverse = outer.reverse ++ [part] :=
          List.reverse_cons
        have hFront : outer.reverse <+: (part :: outer).reverse := by
          rw [hReverse]
          exact List.prefix_append ..
        rcases ih (hPass.toFront hFront) with ⟨mid, hOuter, hAround⟩
        have hLater : mid.IsPassable ⟨root, (part :: outer).reverse⟩ := by
          have hAdds := makeParents_adds root outer tree
          have hRooted := makeParents_rooted root outer tree hPass.rooted
          rw [hOuter] at hAdds hRooted
          exact hPass.adds hAdds hRooted
        rcases makeOrAccept_passable hLater with
          ⟨later, hMade, hThere⟩ | ⟨hGone, -⟩
        · refine ⟨later, ?_, hThere⟩
          have hFamily :
              (Fault.file .missing
                (Path.text ⟨root, (part :: outer).reverse⟩) none).family =
                .missingFile := rfl
          rw [Stateful.tryCatch_apply, hMissing]
          dsimp only
          rw [if_pos hFamily, Stateful.bind_of_ok hOuter, hMade]
        · rcases isDirectory?_spec hAround with ⟨-, place, hPlace, hEntry⟩
          have hFits := hPass.fits
          rw [hReverse] at hFits hGone
          rcases locate_concat hFits (locate_ok_iff.mp hPlace).2 hEntry with
            ⟨next, hNext⟩
          rw [hGone] at hNext
          cases hNext

theorem makeDirectory_passable
    (hPass : tree.IsPassable path) :
    ∃ later, makeDirectory path tree = (.ok ⟨⟩, later) ∧
      later.IsRooted ∧ (isDirectory? path later).1 = .ok true := by
  have hPath : (⟨path.root, path.parts.reverse.reverse⟩ : Path) = path := by
    rw [List.reverse_reverse]
  have hParents : tree.IsPassable ⟨path.root, path.parts.reverse.reverse⟩ :=
    hPath.symm ▸ hPass
  have hRooted :=
    makeParents_rooted path.root path.parts.reverse tree hPass.rooted
  rcases makeParents_passable hParents with ⟨later, hMade, hThere⟩
  rw [hMade] at hRooted
  rw [hPath] at hThere
  exact ⟨later, hMade, hRooted, hThere⟩

end Disk

end Joinery
