import Mathlib.Data.List.Basic
import Joinery.Text.Basic

/-
  A text is determined by its code points, and what is built
  from texts is described by the code points it holds.

  Key theorems include:
    * `Text.ofLetters_letters`
    * `Text.letters_ofLetters`
    * `Text.letters_injective`
    * `Text.letters_append`
    * `Text.letters_join`
    * `Text.letters_joined`
-/

namespace Joinery

namespace Text

------------------------------------------------------------
-- Texts And Their Letters
------------------------------------------------------------

@[simp] theorem letters_ofString
    (s : String) :
    (ofString s).letters = s.toList.map Letter.char := by
  simp [letters, ofString]

@[simp] theorem letters_empty :
    ({ } : Text).letters = [] := rfl

/- Characters in front of a text join the characters it starts with. -/
theorem splitLetters_chars
    (cs : List Char)
    (ls : List Letter) :
    splitLetters (cs.map Letter.char ++ ls) =
      (cs ++ (splitLetters ls).1, (splitLetters ls).2) := by
  induction cs with
  | nil => rfl
  | cons c cs ih =>
      simp only [List.map_cons, List.cons_append, splitLetters, ih]

/- The code points behind the first reserved one are read back. -/
theorem splitLetters_rest
    (rest : List (Surrogate × String)) :
    splitLetters
        (rest.flatMap fun e =>
          .surrogate e.1 :: e.2.toList.map .char) =
      ([], rest) := by
  induction rest with
  | nil => rfl
  | cons e rest ih =>
      simp only [List.flatMap_cons, List.cons_append, splitLetters]
      rw [splitLetters_chars, ih]
      simp

/- A text is read back from its code points. -/
@[simp] theorem ofLetters_letters
    (t : Text) :
    ofLetters t.letters = t := by
  unfold ofLetters letters
  rw [splitLetters_chars, splitLetters_rest]
  simp

/- So are code points from the text that they make. -/
theorem letters_ofLetters
    (ls : List Letter) :
    (ofLetters ls).letters = ls := by
  unfold ofLetters letters
  induction ls with
  | nil => rfl
  | cons l rest ih => cases l <;> simpa [splitLetters] using ih

theorem letters_injective :
    Function.Injective letters := by
  intro s t hLetters
  rw [← ofLetters_letters s, hLetters, ofLetters_letters]

/- A text without letters is empty. -/
theorem isEmpty_iff
    {t : Text} :
    t.isEmpty = true ↔ t.letters = [] := by
  rw [isEmpty, Bool.and_eq_true, String.isEmpty_iff, List.isEmpty_iff,
    letters, List.append_eq_nil_iff, List.map_eq_nil_iff,
    String.toList_eq_nil_iff, List.flatMap_eq_nil_iff]
  refine and_congr_right fun _ => ?_
  constructor
  · rintro hNone e hMem
    rw [hNone] at hMem
    cases hMem
  · intro hEach
    refine List.eq_nil_iff_forall_not_mem.mpr fun e hMem => ?_
    cases hEach e hMem

------------------------------------------------------------
-- Joining
------------------------------------------------------------

/- A text put behind others follows all their code points. -/
theorem flatMap_appendRest
    (t : Text)
    (rest : List (Surrogate × String))
    (hRest : rest ≠ []) :
    (appendRest t rest).flatMap
        (fun e => Letter.surrogate e.1 :: e.2.toList.map .char) =
      rest.flatMap
          (fun e => Letter.surrogate e.1 :: e.2.toList.map .char) ++
        t.letters := by
  induction rest with
  | nil => exact absurd rfl hRest
  | cons e rest ih =>
      cases rest with
      | nil =>
          rcases e with ⟨s, last⟩
          simp [appendRest, letters]
      | cons next others =>
          rcases e with ⟨s, last⟩
          simp only [appendRest, List.flatMap_cons]
          rw [ih (List.cons_ne_nil next others)]
          simp

@[simp] theorem letters_append
    (s t : Text) :
    (s ++ t).letters = s.letters ++ t.letters := by
  change (append s t).letters = _
  rcases s with ⟨start, rest⟩
  cases rest with
  | nil => simp [append, letters]
  | cons e others =>
      have hRest :=
        flatMap_appendRest t (e :: others) (List.cons_ne_nil e others)
      simp only [append, letters] at hRest ⊢
      rw [hRest, List.append_assoc]

theorem append_assoc
    (r s t : Text) :
    r ++ s ++ t = r ++ (s ++ t) :=
  letters_injective (by simp)

theorem empty_append
    (t : Text) :
    ({ } : Text) ++ t = t :=
  letters_injective (by simp)

theorem append_empty
    (t : Text) :
    t ++ ({ } : Text) = t :=
  letters_injective (by simp)

/- Texts that are appended one by one follow what was there. -/
theorem letters_foldl_append
    (ts : List Text)
    (acc : Text) :
    (ts.foldl append acc).letters =
      acc.letters ++ ts.flatMap letters := by
  induction ts generalizing acc with
  | nil => simp
  | cons t ts ih =>
      rw [List.foldl_cons, ih, List.flatMap_cons, ← List.append_assoc]
      exact congrArg (· ++ ts.flatMap letters) (letters_append acc t)

@[simp] theorem letters_join
    (ts : List Text) :
    (join ts).letters = ts.flatMap letters := by
  rw [join, letters_foldl_append]
  simp

theorem join_cons
    (t : Text)
    (ts : List Text) :
    join (t :: ts) = t ++ join ts :=
  letters_injective (by simp)

/- Texts with a separator before each follow what was there. -/
theorem letters_foldl_separated
    (separator : String)
    (ts : List Text)
    (acc : Text) :
    (ts.foldl
        (fun acc next => (acc.append separator).append next)
        acc).letters =
      acc.letters ++
        ts.flatMap fun t =>
          separator.toList.map Letter.char ++ t.letters := by
  induction ts generalizing acc with
  | nil => simp
  | cons t ts ih =>
      have hNext :
          ((acc.append separator).append t).letters =
            acc.letters ++
              (separator.toList.map Letter.char ++ t.letters) := by
        change (acc ++ (separator : Text) ++ t).letters = _
        rw [letters_append, letters_append, letters_ofString,
          List.append_assoc]
      rw [List.foldl_cons, ih, hNext, List.flatMap_cons,
        List.append_assoc]

theorem letters_joined
    (separator : String)
    (ts : List Text) :
    (joined separator ts).letters =
      (separator.toList.map Letter.char).intercalate
        (ts.map letters) := by
  cases ts with
  | nil => rfl
  | cons t ts =>
      rw [joined, letters_foldl_separated]
      induction ts generalizing t with
      | nil => simp [List.intercalate]
      | cons next ts ih =>
          rw [List.flatMap_cons, List.append_assoc, ih next]
          simp [List.intercalate]

end Text

end Joinery
