import Joinery.Proofs.FileTree.Names
import Joinery.Proofs.FileTree.Places

/-
  The temporary file of a target has a place of its own. The
  file system shows its name as the name of the target with
  the suffix of temporary files behind it: the suffix is in
  ASCII, so it does not change how the bytes before it are
  read.

  Key definitions include:
    * `Encoding.Naming.IsRegular`

  Key theorems include:
    * `Encoding.ofFileName_append`
    * `FileTree.shownName_append`
    * `FileTree.goal_temporary_ne`
-/

namespace Joinery

------------------------------------------------------------
-- Reading Names Of Files
------------------------------------------------------------

namespace Encoding

/- Whatever begins goes on with a byte beyond ASCII. -/
theorem least_of_begin
    {n : Nat}
    {begun : Begun}
    (hBegin : begin? n = some begun) :
    0x80 ≤ begun.least := by
  unfold begin? at hBegin
  -- The least next byte is a numeral wherever something begins.
  repeat' split at hBegin
  all_goals first
    | exact absurd hBegin (Option.some_ne_none begun).symm
    | obtain rfl := Option.some.inj hBegin
      exact Nat.le_of_ble_eq_true rfl

theorem least_of_take
    {d next : Decoding}
    {b : UInt8}
    (hTake : Decoding.take? d b = some next)
    {begun : Begun}
    (hBegun : next.begun = some begun) :
    0x80 ≤ begun.least := by
  have hFound :
      ∀ n, (d.found n).begun = some begun → 0x80 ≤ begun.least :=
    nofun
  unfold Decoding.take? at hTake
  dsimp only at hTake
  split at hTake
  · split at hTake
    · rw [← Option.some.inj hTake] at hBegun
      exact hFound _ hBegun
    · rcases Option.map_eq_some_iff.mp hTake with ⟨first, hFirst, rfl⟩
      rw [← Option.some.inj hBegun]
      exact least_of_begin hFirst
  · split at hTake
    · cases hTake
    · split at hTake
      · rw [← Option.some.inj hTake] at hBegun
        exact hFound _ hBegun
      · rw [← Option.some.inj hTake] at hBegun
        rw [← Option.some.inj hBegun]

namespace Naming

/-
  Bytes are held only for a character that has begun, and the
  next byte of such a character is beyond ASCII.
-/
structure IsRegular
    (name : Naming) : Prop where
  idle : name.begun = none → name.held = []
  late : ∀ begun, name.begun = some begun → 0x80 ≤ begun.least

theorem isRegular_release
    (name : Naming) :
    name.release.IsRegular :=
  ⟨fun _ => rfl, nofun⟩

theorem IsRegular.start
    {name : Naming}
    (hRegular : name.IsRegular)
    (b : UInt8) :
    (name.start b).IsRegular := by
  have hKept :
      ∀ reversed, IsRegular { name with reversed := reversed } :=
    fun _ => ⟨hRegular.idle, hRegular.late⟩
  unfold Naming.start
  split
  · exact hKept _
  · rename_i d hTake
    split
    · exact hKept _
    · rename_i begun hBegun
      refine ⟨nofun, fun next hNext => ?_⟩
      rw [← Option.some.inj hNext]
      exact least_of_take hTake hBegun

theorem IsRegular.take
    {name : Naming}
    (hRegular : name.IsRegular)
    (b : UInt8) :
    (name.take b).IsRegular := by
  unfold Naming.take
  cases hName : name.begun with
  | none => exact hRegular.start b
  | some begun =>
      dsimp only
      cases hTake : Decoding.take? ⟨[], some begun⟩ b with
      | none => exact (isRegular_release name).start b
      | some d =>
          dsimp only
          cases hBegun : d.begun with
          | none => exact ⟨fun _ => rfl, nofun⟩
          | some next =>
              refine ⟨nofun, fun other hOther => ?_⟩
              cases hOther
              exact least_of_take hTake hBegun

/- A byte in ASCII ends what has begun, and is a character itself. -/
theorem IsRegular.take_ascii
    {name : Naming}
    (hRegular : name.IsRegular)
    {b : UInt8}
    (hAscii : b.toNat < 0x80) :
    name.take b =
      { reversed := .char (Char.ofNat b.toNat) :: name.release.reversed } := by
  have hStart :
      ∀ other : Naming, other.begun = none → other.held = [] →
        other.start b =
          { reversed := .char (Char.ofNat b.toNat) :: other.reversed } := by
    rintro ⟨reversed, begun, held⟩ rfl rfl
    unfold Naming.start Decoding.take?
    dsimp only
    rw [if_pos hAscii]
    rfl
  unfold Naming.take
  cases hName : name.begun with
  | none =>
      have hHeld := hRegular.idle hName
      have hRelease : name.release.reversed = name.reversed := by
        rw [release, hHeld]
        rfl
      rw [hRelease]
      exact hStart name hName hHeld
  | some begun =>
      have hLate := hRegular.late begun hName
      have hTake : Decoding.take? ⟨[], some begun⟩ b = none := by
        unfold Decoding.take?
        dsimp only
        rw [if_pos (Or.inl (lt_of_lt_of_le hAscii hLate))]
      dsimp only
      rw [hTake]
      exact hStart name.release rfl rfl

theorem isRegular_foldl
    (bytes : List UInt8) :
    (bytes.foldl Naming.take { }).IsRegular := by
  refine List.foldlRecOn bytes Naming.take ⟨fun _ => rfl, nofun⟩ ?_
  intro name hRegular b _
  exact hRegular.take b

/- Bytes in ASCII are read behind whatever was read before. -/
theorem IsRegular.behind
    {added : List UInt8}
    (hAscii : ∀ b ∈ added, b.toNat < 0x80)
    {name : Naming}
    (hRegular : name.IsRegular) :
    (added.foldl Naming.take name).release.reversed =
      (added.map fun b => Letter.char (Char.ofNat b.toNat)).reverse ++
        name.release.reversed := by
  induction added generalizing name with
  | nil => rfl
  | cons b rest ih =>
      have hFirst := hAscii b (List.mem_cons_self ..)
      have hRest := fun c hMem => hAscii c (List.mem_cons_of_mem _ hMem)
      rw [List.foldl_cons, ih hRest (hRegular.take b),
        hRegular.take_ascii hFirst, List.map_cons, List.reverse_cons,
        List.append_assoc]
      rfl

end Naming

/- A name that goes on in ASCII is shown so. -/
theorem ofFileName_append
    (bytes : List UInt8)
    {added : List UInt8}
    (hAscii : ∀ b ∈ added, b.toNat < 0x80) :
    ofFileName (bytes ++ added) =
      ofFileName bytes ++
        Text.ofLetters (added.map fun b => .char (Char.ofNat b.toNat)) := by
  apply Text.letters_injective
  rw [Text.letters_append, ofFileName, ofFileName, Text.letters_ofLetters,
    Text.letters_ofLetters, Text.letters_ofLetters, List.foldl_append,
    (Naming.isRegular_foldl bytes).behind hAscii,
    List.reverse_append, List.reverse_reverse]

/- A text and another one behind it have bytes only if both have. -/
theorem fileName?_append_none
    {s : Text}
    (hNone : fileName? s = none)
    (t : Text) :
    fileName? (s ++ t) = none := by
  rw [fileName?, Option.map_eq_none_iff] at hNone ⊢
  rw [Text.letters_append, List.mapM_append, hNone]
  rfl

end Encoding

/- A string behind a text does not change whether that is a string. -/
theorem Text.string?_append
    (t : Text)
    (s : String) :
    (t ++ (s : Text)).string? = t.string?.map (· ++ s) := by
  rcases t with ⟨start, rest⟩
  change (append ⟨start, rest⟩ (ofString s)).string? = _
  cases rest with
  | nil => rfl
  | cons e others =>
      cases others with
      | nil => rfl
      | cons other rest => rfl

namespace FileTree

------------------------------------------------------------
-- Places Of Temporary Files
------------------------------------------------------------

/- The suffix of temporary files is shown as it is, behind any name. -/
theorem shownName_append
    (name : Text) :
    shownName (name ++ (Disk.temporarySuffix : Text)) =
      shownName name ++ (Disk.temporarySuffix : Text) := by
  let added : List UInt8 := [0x2e, 0x74, 0x6d, 0x70]
  have hAdded :
      Encoding.fileName? (Disk.temporarySuffix : Text) = some added := by
    decide +kernel
  have hLetters :
      Text.ofLetters (added.map fun b => .char (Char.ofNat b.toNat)) =
        (Disk.temporarySuffix : Text) := by
    decide +kernel
  have hAscii : ∀ b ∈ added, b.toNat < 0x80 := by
    decide +kernel
  unfold shownName Encoding.asFileName?
  rw [Text.string?_append]
  cases hString : name.string? with
  | some s => rfl
  | none =>
      dsimp only [Option.map_none]
      cases hBytes : Encoding.fileName? name with
      | none =>
          rw [Encoding.fileName?_append_none hBytes]
          rfl
      | some bytes =>
          rw [Encoding.fileName?_append hBytes hAdded]
          show Encoding.ofFileName (bytes ++ added) = _
          rw [Encoding.ofFileName_append bytes hAscii, hLetters]
          rfl

theorem reach_concat
    (start : Location)
    (parts : List Text)
    (last : Text) :
    reach start (parts ++ [last]) =
      if last = ".." then (reach start parts).dropLast
      else reach start parts ++ [shownName last] := by
  induction parts generalizing start with
  | nil => simp only [List.nil_append, reach]
  | cons part rest ih =>
      rw [List.cons_append, reach, reach]
      split
      · exact ih _
      · exact ih _

/- With the suffix of temporary files a name leads somewhere else. -/
theorem reach_suffix_ne
    (start : Location)
    (parts : List Text)
    (name : Text) :
    reach start (parts ++ [name ++ (Disk.temporarySuffix : Text)]) ≠
      reach start (parts ++ [name]) := by
  have hSuffix :
      (Disk.temporarySuffix : Text).letters =
        ['.', 't', 'm', 'p'].map Letter.char :=
    Text.letters_ofString _
  have hDown : name ++ (Disk.temporarySuffix : Text) ≠ ".." := by
    intro hUp
    have hLetters := congrArg (fun s : Text => s.letters.length) hUp
    simp [hSuffix] at hLetters
  have hOther :
      shownName name ++ (Disk.temporarySuffix : Text) ≠ shownName name := by
    intro hSame
    have hLetters := congrArg (fun s : Text => s.letters.length) hSame
    simp [hSuffix] at hLetters
  intro hPlaces
  rw [reach_concat, reach_concat, if_neg hDown, shownName_append]
    at hPlaces
  split at hPlaces
  · have hLength := congrArg List.length hPlaces
    rw [List.length_append, List.length_dropLast, List.length_singleton]
      at hLength
    omega
  · exact hOther (List.singleton_inj.mp (List.append_cancel_left hPlaces))

/- Only a path with a name has a temporary file beside it. -/
theorem parts_of_temporary
    {path temporary : Path}
    {added : Text}
    (hTemporary : Disk.temporary path added = .ok temporary) :
    path.parts ≠ [] := by
  intro hParts
  have hName : path.name = "" := by
    rw [Path.name, hParts]
    rfl
  rw [Disk.temporary, Path.withSuffix, if_pos hName] at hTemporary
  split at hTemporary
  · cases hTemporary
  · cases hTemporary

/- A target is not where its temporary file is. -/
theorem goal_temporary_ne
    (tree : FileTree)
    {t : Text}
    {temporary : Path}
    (hTemporary :
      Disk.temporary (Path.ofText t) Disk.temporarySuffix =
        .ok temporary) :
    tree.goal temporary ≠ tree.goal (Path.ofText t) := by
  have hParts := parts_of_temporary hTemporary
  have hSplit := Path.dropLast_name hParts
  rw [Disk.temporary_ofText hParts] at hTemporary
  cases hTemporary
  have hOther :=
    reach_suffix_ne
      (if (Path.ofText t).root = "" then tree.home else [])
      (Path.ofText t).parts.dropLast (Path.ofText t).name
  rw [hSplit] at hOther
  exact hOther

end FileTree

end Joinery
