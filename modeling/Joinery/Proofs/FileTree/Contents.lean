import Mathlib.Order.MinMax
import Joinery.Proofs.FileTree.Shape

/-
  The contents of the files of a tree. Two trees may have the
  same files with the same contents, but for one file that
  somebody else writes to. A new file gets a number that no
  file has, as long as all files have contents.

  Key definitions include:
    * `FileTree.SameBut`
    * `FileTree.IsSound`

  Key theorems include:
    * `FileTree.bytes_write`
    * `FileTree.freshSerial_write`
    * `FileTree.SameBut.append`
-/

namespace Joinery

namespace FileTree

------------------------------------------------------------
-- Writing
------------------------------------------------------------

/- Only the file that is written to gets other contents. -/
theorem bytes_write
    (tree : FileTree)
    (serial key : Nat)
    (bytes : List UInt8) :
    (tree.write serial bytes).bytes key =
      if key = serial then bytes else tree.bytes key := by
  unfold FileTree.bytes write
  rw [List.lookup_cons]
  by_cases hSame : key = serial
  · rw [if_pos hSame, beq_iff_eq.mpr hSame]
    rfl
  · rw [if_neg hSame, beq_eq_false_iff_ne.mpr hSame]
    exact congrArg (·.getD []) (lookup_filter_ne tree.contents hSame)

/- A number is below the fresh one if it is at most one of those in use. -/
theorem lt_fresh_iff
    (contents : List (Nat × List UInt8))
    (start key : Nat) :
    key < contents.foldl (fun n c => max n (c.1 + 1)) start ↔
      key < start ∨ ∃ c ∈ contents, key ≤ c.1 := by
  induction contents generalizing start with
  | nil => simp
  | cons c rest ih =>
      rw [List.foldl_cons, ih, lt_max_iff, Nat.lt_succ_iff, or_assoc,
        List.exists_mem_cons_iff]

theorem lt_freshSerial_iff
    (tree : FileTree)
    (key : Nat) :
    key < tree.freshSerial ↔ ∃ c ∈ tree.contents, key ≤ c.1 := by
  rw [freshSerial, lt_fresh_iff]
  simp

/- After writing, the number of the file is in use. -/
theorem freshSerial_write
    (tree : FileTree)
    (serial : Nat)
    (bytes : List UInt8) :
    (tree.write serial bytes).freshSerial =
      max tree.freshSerial (serial + 1) := by
  refine eq_of_forall_lt_iff fun key => ?_
  rw [lt_freshSerial_iff, lt_max_iff, lt_freshSerial_iff,
    Nat.lt_succ_iff, write, List.exists_mem_cons_iff]
  constructor
  · rintro (hKey | ⟨c, hMem, hKey⟩)
    · exact Or.inr hKey
    · exact Or.inl ⟨c, List.mem_of_mem_filter hMem, hKey⟩
  · rintro (⟨c, hMem, hKey⟩ | hKey)
    · by_cases hSame : c.1 = serial
      · exact Or.inl (hSame ▸ hKey)
      · exact Or.inr
          ⟨c, List.mem_filter.mpr ⟨hMem, by simpa using hSame⟩, hKey⟩
    · exact Or.inl hKey

------------------------------------------------------------
-- Sound Trees
------------------------------------------------------------

/- Every file of a tree has contents: its number is in use. -/
def IsSound
    (tree : FileTree) : Prop :=
  ∀ place serial, tree.entry? place = some (.file serial) →
    serial < tree.freshSerial

------------------------------------------------------------
-- Trees That Agree
------------------------------------------------------------

/-
  Two trees are the same but for the contents of one file, if
  there is such a file.
-/
structure SameBut
    (log? : Option Nat)
    (tree other : FileTree) : Prop where
  home : tree.home = other.home
  entry : ∀ place, tree.entry? place = other.entry? place
  fresh : tree.freshSerial = other.freshSerial
  bytes :
    ∀ serial, log? ≠ some serial →
      tree.bytes serial = other.bytes serial
  readOnly : tree.readOnly = other.readOnly

namespace SameBut

variable {log? : Option Nat}
variable {tree other third : FileTree}

theorem refl
    (log? : Option Nat)
    (tree : FileTree) :
    SameBut log? tree tree :=
  ⟨rfl, fun _ => rfl, rfl, fun _ _ => rfl, rfl⟩

theorem trans
    (hFirst : SameBut log? tree other)
    (hSecond : SameBut log? other third) :
    SameBut log? tree third where
  home := hFirst.home.trans hSecond.home
  entry := fun place => (hFirst.entry place).trans (hSecond.entry place)
  fresh := hFirst.fresh.trans hSecond.fresh
  bytes := fun serial hOther =>
    (hFirst.bytes serial hOther).trans (hSecond.bytes serial hOther)
  readOnly := hFirst.readOnly.trans hSecond.readOnly

theorem alike
    (hSame : SameBut log? tree other) :
    Alike tree other where
  home := hSame.home
  kind := fun place =>
    congrArg (Option.map Entry.isDirectory) (hSame.entry place)
  readOnly := hSame.readOnly

/- Adding to that one file makes no difference. -/
theorem append
    (tree : FileTree)
    {serial : Nat}
    (hUsed : serial < tree.freshSerial)
    (bytes : List UInt8) :
    SameBut (some serial) tree (tree.append serial bytes) where
  home := rfl
  entry := fun _ => rfl
  fresh := by
    rw [FileTree.append, freshSerial_write]
    exact (max_eq_left hUsed).symm
  bytes := by
    intro key hOther
    rw [FileTree.append, bytes_write, if_neg]
    rintro rfl
    exact hOther rfl
  readOnly := rfl

theorem put
    (hSame : SameBut log? tree other)
    (place : Location)
    (entry : Entry) :
    SameBut log? (tree.put place entry) (other.put place entry) where
  home := hSame.home
  entry := by
    intro key
    rw [entry?_put, entry?_put, hSame.entry]
  fresh := hSame.fresh
  bytes := hSame.bytes
  readOnly := hSame.readOnly

theorem drop
    (hSame : SameBut log? tree other)
    (place : Location) :
    SameBut log? (tree.drop place) (other.drop place) where
  home := hSame.home
  entry := by
    intro key
    rw [entry?_drop, entry?_drop, hSame.entry]
  fresh := hSame.fresh
  bytes := hSame.bytes
  readOnly := hSame.readOnly

theorem write
    (hSame : SameBut log? tree other)
    (serial : Nat)
    (bytes : List UInt8) :
    SameBut log? (tree.write serial bytes)
      (other.write serial bytes) where
  home := hSame.home
  entry := hSame.entry
  fresh := by
    rw [freshSerial_write, freshSerial_write, hSame.fresh]
  bytes := by
    intro key hOther
    rw [bytes_write, bytes_write, hSame.bytes key hOther]
  readOnly := hSame.readOnly

end SameBut

end FileTree

end Joinery
