import Joinery.FileTree.Atomic
import Joinery.Proofs.Text.Letters

/-
  The parts of a path hold no slashes. Its last part is split
  into a stem and a suffix that make it up again, so that the
  temporary file beside a target has the name of the target
  with the suffix of temporary files behind it.

  Key theorems include:
    * `Path.part_ofText`
    * `Path.splitName_append`
    * `Disk.flaw?_eq_none_iff`
    * `Disk.temporary_ofText`
-/

namespace Joinery

namespace Path

------------------------------------------------------------
-- Parts
------------------------------------------------------------

/- What stands between slashes holds none. -/
theorem slash_not_mem
    {ls part : List Letter}
    (hMem : part ∈ splitSlash ls) :
    .char '/' ∉ part := by
  induction ls generalizing part with
  | nil =>
      rw [splitSlash, List.mem_singleton] at hMem
      rw [hMem]
      exact List.not_mem_nil
  | cons l rest ih =>
      rw [splitSlash] at hMem
      split at hMem
      · rcases List.mem_cons.mp hMem with rfl | hLater
        · exact List.not_mem_nil
        · exact ih hLater
      · rename_i hOther
        split at hMem
        · rename_i first others hRest
          rw [hRest] at ih
          rcases List.mem_cons.mp hMem with rfl | hLater
          · rw [List.mem_cons, not_or]
            exact ⟨Ne.symm hOther, ih (List.mem_cons_self ..)⟩
          · exact ih (List.mem_cons_of_mem _ hLater)
        · rw [List.mem_singleton] at hMem
          rw [hMem, List.mem_singleton]
          exact Ne.symm hOther

/- A part of the path that a text names is not empty and has no slash. -/
theorem part_ofText
    {t part : Text}
    (hMem : part ∈ (ofText t).parts) :
    part ≠ "" ∧ .char '/' ∉ part.letters := by
  rcases List.mem_filter.mp hMem with ⟨hPart, hKept⟩
  rcases List.mem_map.mp hPart with ⟨ls, hBetween, rfl⟩
  rw [Text.letters_ofLetters]
  exact ⟨(of_decide_eq_true hKept).1, slash_not_mem hBetween⟩

/- A text without slashes is all that stands between them. -/
theorem splitSlash_of_no_slash
    {ls : List Letter}
    (hNone : .char '/' ∉ ls) :
    splitSlash ls = [ls] := by
  induction ls with
  | nil => rfl
  | cons l rest ih =>
      rw [List.mem_cons, not_or] at hNone
      rw [splitSlash, if_neg (Ne.symm hNone.1), ih hNone.2]

/- A name is a path of one part. -/
theorem ofText_name
    {name : Text}
    (hNone : .char '/' ∉ name.letters)
    (hName : name ≠ "" ∧ name ≠ ".") :
    ofText name = ⟨"", [name]⟩ := by
  have hRoot : rootOf name.letters = "" := by
    unfold rootOf
    cases hLetters : name.letters with
    | nil => rfl
    | cons l rest =>
        rw [hLetters, List.mem_cons, not_or] at hNone
        rw [List.takeWhile_cons_of_neg (by simpa using Ne.symm hNone.1)]
        rfl
  rw [ofText, hRoot, splitSlash_of_no_slash hNone, List.map_singleton,
    Text.ofLetters_letters]
  rw [List.filter_cons_of_pos (by simpa using hName), List.filter_nil]

/- The last part of a path stands behind all others. -/
theorem dropLast_name
    {path : Path}
    (hParts : path.parts ≠ []) :
    path.parts.dropLast ++ [path.name] = path.parts := by
  rw [name, List.getLast?_eq_getLast_of_ne_nil hParts]
  exact List.dropLast_append_getLast hParts

theorem text_name
    (name : Text) :
    Path.text ⟨"", [name]⟩ = name := by
  rw [text, if_neg (by simp)]
  exact Text.empty_append name

------------------------------------------------------------
-- Stems And Suffixes
------------------------------------------------------------

/-
  A name has no suffix, or one that begins with a point and
  goes on behind it.
-/
theorem splitName_cases
    (name : Text) :
    splitName name = (name, ("" : Text)) ∨
      ∃ stem tail, name.letters = stem ++ .char '.' :: tail ∧
        splitName name = (.ofLetters stem, .ofLetters (.char '.' :: tail)) := by
  have hSplit :=
    List.takeWhile_append_dropWhile
      (p := (· ≠ Letter.char '.')) (l := name.letters.reverse)
  unfold splitName
  dsimp only
  cases hDrop : name.letters.reverse.dropWhile (· ≠ .char '.') with
  | nil => exact Or.inl rfl
  | cons point stem =>
      dsimp only
      split
      · exact Or.inl rfl
      · have hPoint : point = .char '.' := by
          have hFirst :=
            List.head?_dropWhile_not (· ≠ Letter.char '.')
              name.letters.reverse
          rw [hDrop] at hFirst
          simpa using hFirst
        refine Or.inr ⟨stem.reverse, _, ?_, by rw [hPoint]⟩
        rw [hDrop, hPoint] at hSplit
        have hLetters := congrArg List.reverse hSplit
        rw [List.reverse_reverse, List.reverse_append,
          List.reverse_cons, List.append_assoc] at hLetters
        exact hLetters.symm

/- Stem and suffix make up the name. -/
theorem splitName_append
    (name : Text) :
    (splitName name).1 ++ (splitName name).2 = name := by
  rcases splitName_cases name with hNone | ⟨stem, tail, hLetters, hSplit⟩
  · rw [hNone]
    exact Text.append_empty name
  · rw [hSplit]
    apply Text.letters_injective
    rw [Text.letters_append, Text.letters_ofLetters,
      Text.letters_ofLetters, hLetters]

/- With more behind it that can be in a name, a suffix stays one. -/
theorem isSuffix_append
    {name added : Text}
    (hName : .char '/' ∉ name.letters)
    {rest : List Letter}
    (hAdded : added.letters = .char '.' :: rest)
    (hRest : rest ≠ [])
    (hSlash : .char '/' ∉ rest) :
    isSuffix ((splitName name).2 ++ added) = true := by
  unfold isSuffix
  rw [Text.letters_append, hAdded]
  rcases splitName_cases name with hNone | ⟨stem, tail, hLetters, hSplit⟩
  · rw [hNone]
    simp [Text.letters, Text.ofString, hRest, hSlash]
  · have hTail : .char '/' ∉ tail := by
      intro hMem
      refine hName ?_
      rw [hLetters]
      exact List.mem_append_right _ (List.mem_cons_of_mem _ hMem)
    rw [hSplit, Text.letters_ofLetters]
    simp [hTail, hSlash]

end Path

------------------------------------------------------------
-- Bytes Of Names
------------------------------------------------------------

/- Two names one behind the other have the bytes of both. -/
theorem Encoding.fileName?_append
    {s t : Text}
    {first second : List UInt8}
    (hFirst : fileName? s = some first)
    (hSecond : fileName? t = some second) :
    fileName? (s ++ t) = some (first ++ second) := by
  rw [fileName?, Option.map_eq_some_iff] at hFirst hSecond
  rcases hFirst with ⟨firsts, hFirst, rfl⟩
  rcases hSecond with ⟨seconds, hSecond, rfl⟩
  rw [fileName?, Text.letters_append, List.mapM_append, hFirst, hSecond,
    ← List.flatten_append]
  rfl

/- A path names something if its text has bytes, and none of them is zero. -/
theorem Disk.flaw?_eq_none_iff
    (path : Path) :
    flaw? path = none ↔
      (Encoding.fileName? path.text).isSome = true ∧
        .char '\x00' ∉ path.text.letters := by
  rw [flaw?, ← List.contains_iff_mem]
  cases (Encoding.fileName? path.text) with
  | none => simp
  | some bytes => simp

------------------------------------------------------------
-- Temporary Files
------------------------------------------------------------

/- The name of a temporary file is that of its target and a suffix. -/
theorem Disk.temporary_ofText
    {t : Text}
    (hParts : (Path.ofText t).parts ≠ []) :
    Disk.temporary (Path.ofText t) temporarySuffix =
      .ok
        { Path.ofText t with
          parts :=
            (Path.ofText t).parts.dropLast ++
              [(Path.ofText t).name ++ temporarySuffix] } := by
  have hLast : (Path.ofText t).name = (Path.ofText t).parts.getLast hParts := by
    rw [Path.name, List.getLast?_eq_getLast_of_ne_nil hParts]
    rfl
  rcases Path.part_ofText (hLast ▸ List.getLast_mem hParts) with
    ⟨hName, hSlash⟩
  have hSuffix :
      Path.isSuffix ((Path.ofText t).suffix ++ temporarySuffix) = true :=
    Path.isSuffix_append hSlash
      (Text.letters_ofString temporarySuffix) (by decide) (by decide)
  rw [temporary, Path.withSuffix, hSuffix, if_neg hName, Path.suffix,
    ← Text.append_assoc, Path.splitName_append]
  rfl

end Joinery
