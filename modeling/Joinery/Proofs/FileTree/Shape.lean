import Mathlib.Data.List.Basic
import Joinery.FileTree.Basic

/-
  Two trees have one shape if they have the same files and
  directories, whatever is in the files, and if the same
  directories can only be read. Paths lead to the same places
  in them.

  Key definitions include:
    * `FileTree.kind?`
    * `FileTree.Alike`

  Key theorems include:
    * `FileTree.entry?_put`
    * `FileTree.entry?_drop`
    * `FileTree.Alike.cases`
    * `FileTree.Alike.locate`
-/

namespace Joinery

------------------------------------------------------------
-- Shapes
------------------------------------------------------------

/- An entry is a directory. -/
def Entry.isDirectory : Entry → Bool
  | .directory => true
  | .file _ => false

namespace FileTree

/- Whether there is a directory or a file at a place, or nothing. -/
def kind?
    (tree : FileTree)
    (place : Location) : Option Bool :=
  (tree.entry? place).map Entry.isDirectory

/- Two trees have the same files and directories, and can be changed alike. -/
structure Alike
    (tree other : FileTree) : Prop where
  home : tree.home = other.home
  kind : ∀ place, tree.kind? place = other.kind? place
  readOnly : tree.readOnly = other.readOnly

theorem Alike.refl
    (tree : FileTree) :
    Alike tree tree :=
  ⟨rfl, fun _ => rfl, rfl⟩

theorem Alike.trans
    {tree other third : FileTree}
    (hFirst : Alike tree other)
    (hSecond : Alike other third) :
    Alike tree third :=
  ⟨hFirst.home.trans hSecond.home,
    fun place => (hFirst.kind place).trans (hSecond.kind place),
    hFirst.readOnly.trans hSecond.readOnly⟩

------------------------------------------------------------
-- Changes Of A Tree
------------------------------------------------------------

section Lookup

variable {κ ν : Type} [BEq κ] [LawfulBEq κ] [DecidableEq κ]

theorem lookup_filter_ne
    (entries : List (κ × ν))
    {place key : κ}
    (hOther : key ≠ place) :
    (entries.filter fun e => e.1 ≠ place).lookup key =
      entries.lookup key := by
  induction entries with
  | nil => rfl
  | cons e rest ih =>
      by_cases hPlace : e.1 = place
      · have hKey : (key == e.1) = false := by
          simpa [hPlace] using hOther
        rw [List.filter_cons_of_neg (by simpa using hPlace), ih,
          List.lookup_cons, hKey]
      · rw [List.filter_cons_of_pos (by simpa using hPlace),
          List.lookup_cons, List.lookup_cons, ih]

theorem lookup_filter_self
    (entries : List (κ × ν))
    (place : κ) :
    (entries.filter fun e => e.1 ≠ place).lookup place = none := by
  induction entries with
  | nil => rfl
  | cons e rest ih =>
      by_cases hPlace : e.1 = place
      · rw [List.filter_cons_of_neg (by simpa using hPlace), ih]
      · have hKey : (place == e.1) = false := by
          simpa using Ne.symm hPlace
        rw [List.filter_cons_of_pos (by simpa using hPlace),
          List.lookup_cons, hKey, ih]

end Lookup

/- What is put at a place is there; the root stays a directory. -/
theorem entry?_put
    (tree : FileTree)
    (place key : Location)
    (entry : Entry) :
    FileTree.entry? (tree.put place entry) key =
      if key = [] then some .directory
      else if key = place then some entry
      else tree.entry? key := by
  by_cases hRoot : key = []
  · rw [if_pos hRoot, entry?, if_pos hRoot]
  · rw [if_neg hRoot, entry?, if_neg hRoot, put, List.lookup_cons]
    by_cases hPlace : key = place
    · rw [if_pos hPlace, beq_iff_eq.mpr hPlace]
    · rw [if_neg hPlace, beq_eq_false_iff_ne.mpr hPlace, entry?,
        if_neg hRoot]
      exact lookup_filter_ne tree.entries hPlace

/- What is taken away is gone; the root stays a directory. -/
theorem entry?_drop
    (tree : FileTree)
    (place key : Location) :
    FileTree.entry? (tree.drop place) key =
      if key = [] then some .directory
      else if key = place then none
      else tree.entry? key := by
  by_cases hRoot : key = []
  · rw [if_pos hRoot, entry?, if_pos hRoot]
  · rw [if_neg hRoot, entry?, if_neg hRoot, drop]
    by_cases hPlace : key = place
    · rw [if_pos hPlace, hPlace]
      exact lookup_filter_self tree.entries place
    · rw [if_neg hPlace, entry?, if_neg hRoot]
      exact lookup_filter_ne tree.entries hPlace

namespace Alike

variable {tree other : FileTree}

/- Contents make no difference. -/
theorem write
    (hAlike : Alike tree other)
    (serial number : Nat)
    (bytes others : List UInt8) :
    Alike (tree.write serial bytes) (other.write number others) :=
  ⟨hAlike.home, hAlike.kind, hAlike.readOnly⟩

/- Nor does it when only one of the trees is written to. -/
theorem append
    (tree : FileTree)
    (serial : Nat)
    (bytes : List UInt8) :
    Alike tree (tree.append serial bytes) :=
  ⟨rfl, fun _ => rfl, rfl⟩

theorem put
    (hAlike : Alike tree other)
    (place : Location)
    {entry second : Entry}
    (hKind : entry.isDirectory = second.isDirectory) :
    Alike (tree.put place entry) (other.put place second) := by
  refine ⟨hAlike.home, fun key => ?_, hAlike.readOnly⟩
  have hSame := hAlike.kind key
  rw [kind?, kind?] at hSame ⊢
  rw [entry?_put, entry?_put]
  split
  · rfl
  · split
    · exact congrArg some hKind
    · exact hSame

theorem drop
    (hAlike : Alike tree other)
    (place : Location) :
    Alike (tree.drop place) (other.drop place) := by
  refine ⟨hAlike.home, fun key => ?_, hAlike.readOnly⟩
  have hSame := hAlike.kind key
  rw [kind?, kind?] at hSame ⊢
  rw [entry?_drop, entry?_drop]
  split
  · rfl
  · split
    · rfl
    · exact hSame

/- Trees of one shape have the same kind of entry at a place. -/
theorem cases
    (hAlike : Alike tree other)
    (place : Location) :
    (tree.entry? place = none ∧ other.entry? place = none) ∨
      (tree.entry? place = some .directory ∧
        other.entry? place = some .directory) ∨
      ∃ serial second, tree.entry? place = some (.file serial) ∧
        other.entry? place = some (.file second) := by
  have hSame := hAlike.kind place
  rw [kind?, kind?] at hSame
  cases hFirst : tree.entry? place with
  | none =>
      cases hSecond : other.entry? place with
      | none => exact Or.inl ⟨rfl, rfl⟩
      | some entry =>
          rw [hFirst, hSecond] at hSame
          cases hSame
  | some entry =>
      cases hSecond : other.entry? place with
      | none =>
          rw [hFirst, hSecond] at hSame
          cases hSame
      | some second =>
          rw [hFirst, hSecond] at hSame
          cases entry with
          | directory =>
              cases second with
              | directory => exact Or.inr (Or.inl ⟨rfl, rfl⟩)
              | file serial => cases hSame
          | file serial =>
              cases second with
              | directory => cases hSame
              | file number =>
                  exact Or.inr (Or.inr ⟨serial, number, rfl, rfl⟩)

/- What cannot be changed in one of them cannot be in the other. -/
theorem isReadOnly_eq
    (hAlike : Alike tree other)
    (place : Location) :
    tree.isReadOnly place = other.isReadOnly place := by
  rw [isReadOnly, isReadOnly, hAlike.readOnly]

theorem isSome_eq
    (hAlike : Alike tree other)
    (place : Location) :
    (tree.entry? place).isSome = (other.entry? place).isSome := by
  rcases hAlike.cases place with
    ⟨hFirst, hSecond⟩ | ⟨hFirst, hSecond⟩ | ⟨_, _, hFirst, hSecond⟩
  · rw [hFirst, hSecond]
  · rw [hFirst, hSecond]
  · rw [hFirst, hSecond]
    rfl

theorem isDirectory_iff
    (hAlike : Alike tree other)
    (place : Location) :
    tree.entry? place = some .directory ↔
      other.entry? place = some .directory := by
  rcases hAlike.cases place with
    ⟨hFirst, hSecond⟩ | ⟨hFirst, hSecond⟩ | ⟨_, _, hFirst, hSecond⟩ <;>
      simp [hFirst, hSecond]

/- A path leads to the same place in trees of one shape. -/
theorem walk
    (hAlike : Alike tree other)
    (place : Location)
    (parts : List Text) :
    tree.walk place parts = other.walk place parts := by
  induction parts generalizing place with
  | nil => rw [FileTree.walk, FileTree.walk]
  | cons part rest ih =>
      rw [FileTree.walk, FileTree.walk]
      rcases hAlike.cases place with
        ⟨hFirst, hSecond⟩ | ⟨hFirst, hSecond⟩ |
          ⟨_, _, hFirst, hSecond⟩
      · rw [hFirst, hSecond]
      · rw [hFirst, hSecond]
        simp only [ih]
      · rw [hFirst, hSecond]

theorem locate
    (hAlike : Alike tree other)
    (path : Path) :
    tree.locate path = other.locate path := by
  rw [FileTree.locate, FileTree.locate, hAlike.home, hAlike.walk]

end Alike

end FileTree

end Joinery
