import Mathlib.Data.List.Lex
import Mathlib.Data.List.Perm.Basic
import Mathlib.Data.Set.List
import Joinery.Proofs.Outcome
import Joinery.Proofs.Text.Letters
import Joinery.Value.Order

/-
  The order in which texts are sorted is a linear order of
  the numbers of their code points. So texts are sorted in
  one way only, whatever order they are given in.

  Key definitions include:
    * `Text.codes`
    * `Text.InOrder`

  Key theorems include:
    * `Text.codes_injective`
    * `Value.sorted_texts`
    * `Value.sorted_eq_of_perm`
-/

namespace Joinery

------------------------------------------------------------
-- Texts By Their Numbers
------------------------------------------------------------

/- A character is no half of a pair, so numbers tell code points apart. -/
theorem Letter.code_injective :
    Function.Injective Letter.code := by
  have hApart : ∀ (c : Char) (s : Surrogate), c.toNat ≠ s.code := by
    intro c s hSame
    have hOffset := s.offset.isLt
    have hCode : c.toNat = 0xd800 + s.offset.val := hSame
    rcases c.valid with hBelow | ⟨hAbove, -⟩
    · have hChar : c.toNat < 0xd800 := hBelow
      omega
    · have hChar : 0xdfff < c.toNat := hAbove
      omega
  rintro (c | s) (d | t) hSame
  · exact congrArg Letter.char (Char.toNat_inj.mp hSame)
  · exact absurd hSame (hApart c t)
  · exact absurd hSame.symm (hApart d s)
  · rcases s with ⟨m⟩
    rcases t with ⟨n⟩
    have hOffset : m.val = n.val := Nat.add_left_cancel hSame
    rw [Fin.ext hOffset]

namespace Text

/- The numbers of the code points of a text. -/
def codes
    (t : Text) : List Nat :=
  t.letters.map Letter.code

theorem codes_injective :
    Function.Injective codes := by
  intro s t hCodes
  exact letters_injective
    (List.map_injective_iff.mpr Letter.code_injective hCodes)

theorem precedes_iff
    (s t : Text) :
    s.precedes t = true ↔ s.codes < t.codes :=
  decide_eq_true_iff

/- No text comes behind one that it precedes. -/
def InOrder
    (ts : List Text) : Prop :=
  ts.Pairwise fun s t => s.codes ≤ t.codes

/- There is one order for texts. -/
theorem InOrder.eq_of_perm
    {ts us : List Text}
    (hFirst : InOrder ts)
    (hSecond : InOrder us)
    (hPerm : ts.Perm us) :
    ts = us := by
  refine hPerm.eq_of_pairwise ?_ hFirst hSecond
  intro s t _ _ hUp hDown
  exact codes_injective (le_antisymm hUp hDown)

end Text

------------------------------------------------------------
-- Sorted Texts
------------------------------------------------------------

namespace Value

theorem text_less
    (s t : Text) :
    (Value.text s).less (.text t) = .ok (s.precedes t) := by
  simp [less, number?, text?]

/- A text is put where the order stays. -/
theorem insertSorted_texts
    (t : Text)
    {us : List Text}
    (hOrder : Text.InOrder us) :
    ∃ ws,
      insertSorted (.text t) (us.map .text) = .ok (ws.map .text) ∧
        ws.Perm (t :: us) ∧ Text.InOrder ws := by
  induction us with
  | nil => exact ⟨[t], rfl, .refl _, List.pairwise_singleton _ _⟩
  | cons u us ih =>
      rcases List.pairwise_cons.mp hOrder with ⟨hLeast, hRest⟩
      by_cases hLess : t.codes < u.codes
      · refine ⟨t :: u :: us, ?_, .refl _, ?_⟩
        · simp only [List.map_cons, insertSorted, text_less,
            (Text.precedes_iff t u).mpr hLess, Outcome.ok_bind]
          rfl
        · refine List.pairwise_cons.mpr ⟨?_, hOrder⟩
          intro v hMem
          rcases List.mem_cons.mp hMem with rfl | hMem
          · exact hLess.le
          · exact hLess.le.trans (hLeast v hMem)
      · rcases ih hRest with ⟨ws, hInsert, hPerm, hSorted⟩
        have hNot : t.precedes u = false := by
          rw [← Bool.not_eq_true, Text.precedes_iff]
          exact hLess
        refine ⟨u :: ws, ?_, ?_, ?_⟩
        · simp only [List.map_cons, insertSorted, text_less, hNot,
            Outcome.ok_bind, hInsert]
          rfl
        · exact (hPerm.cons u).trans (.swap t u us)
        · refine List.pairwise_cons.mpr ⟨?_, hSorted⟩
          intro v hMem
          rcases List.mem_cons.mp (hPerm.mem_iff.mp hMem) with rfl | hMem
          · exact not_lt.mp hLess
          · exact hLeast v hMem

/- Texts that are put one by one among others that are in order. -/
theorem foldlM_insertSorted_texts
    (ts : List Text)
    {us : List Text}
    (hOrder : Text.InOrder us) :
    ∃ ws,
      (ts.map Value.text).foldlM (fun acc v => insertSorted v acc)
          (us.map .text) =
        .ok (ws.map .text) ∧
        ws.Perm (ts ++ us) ∧ Text.InOrder ws := by
  induction ts generalizing us with
  | nil => exact ⟨us, rfl, .refl _, hOrder⟩
  | cons t ts ih =>
      rcases insertSorted_texts t hOrder with
        ⟨vs, hInsert, hFirst, hNext⟩
      rcases ih hNext with ⟨ws, hRest, hPerm, hSorted⟩
      refine ⟨ws, ?_, ?_, hSorted⟩
      · rw [List.map_cons, List.foldlM_cons, hInsert]
        exact hRest
      · exact hPerm.trans
          ((hFirst.append_left ts).trans List.perm_middle)

/- Texts are sorted into the same texts in order. -/
theorem sorted_texts
    (ts : List Text) :
    ∃ ws,
      sorted (ts.map .text) = .ok (ws.map .text) ∧
        ws.Perm ts ∧ Text.InOrder ws := by
  rcases foldlM_insertSorted_texts ts List.Pairwise.nil with
    ⟨ws, hSorted, hPerm, hOrder⟩
  rw [List.append_nil] at hPerm
  exact ⟨ws, hSorted, hPerm, hOrder⟩

/- Values that are all texts are the texts that some list holds. -/
theorem exists_texts
    {vs : List Value}
    (hTexts : ∀ v ∈ vs, ∃ t, Value.text t = v) :
    ∃ ts : List Text, ts.map Value.text = vs := by
  have hRange : vs ∈ Set.range (List.map Value.text) := by
    rw [Set.range_list_map]
    exact hTexts
  exact hRange

/- No text is lost when texts are sorted. -/
theorem eq_nil_of_sorted
    {vs : List Value}
    (hTexts : ∀ v ∈ vs, ∃ t, Value.text t = v)
    (hSorted : sorted vs = .ok []) :
    vs = [] := by
  rcases exists_texts hTexts with ⟨ts, rfl⟩
  rcases sorted_texts ts with ⟨ws, hOutcome, hPerm, -⟩
  have hNone : ws.map Value.text = [] :=
    Except.ok.inj (hOutcome.symm.trans hSorted)
  rw [List.map_eq_nil_iff] at hNone ⊢
  exact (hNone ▸ hPerm).symm.eq_nil

/- The order in which texts are given is lost when they are sorted. -/
theorem sorted_eq_of_perm
    {vs ws : List Value}
    (hTexts : ∀ v ∈ vs, ∃ t, Value.text t = v)
    (hPerm : vs.Perm ws) :
    sorted ws = sorted vs := by
  rcases exists_texts hTexts with ⟨ts, rfl⟩
  have hOthers : ∀ w ∈ ws, ∃ t, Value.text t = w :=
    fun w hMem => hTexts w (hPerm.mem_iff.mpr hMem)
  rcases exists_texts hOthers with ⟨us, rfl⟩
  have hSame : ts.Perm us :=
    (List.map_perm_map_iff fun _ _ => Value.text.inj).mp hPerm
  rcases sorted_texts ts with ⟨first, hFirst, hFrom, hOrder⟩
  rcases sorted_texts us with ⟨second, hSecond, hTo, hOther⟩
  have hEqual : second = first :=
    hOther.eq_of_perm hOrder (hTo.trans (hSame.symm.trans hFrom.symm))
  rw [hFirst, hSecond, hEqual]

end Value

end Joinery
