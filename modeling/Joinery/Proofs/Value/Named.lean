import Mathlib.Data.List.Nodup
import Joinery.Proofs.Outcome
import Joinery.Value.Json

/-
  A mapping whose keys are texts holds one value under each
  of its names, in whatever order its entries stand. Named
  values that are bound one after the other hold the last
  one under each name. They are written as the members of a
  JSON object.

  Key definitions include:
    * `Entries.AreNamed`
    * `Named.AreDistinct`

  Key theorems include:
    * `Entries.get?_eq_some_iff`
    * `Entries.get?_eq_of_perm`
    * `Named.get?_bind`
    * `Named.get?_bindAll`
    * `Named.get?_filter`
    * `Named.exists_members`
    * `Named.AreDistinct.mem_iff`
-/

namespace Joinery

theorem Value.text_equals
    (s t : Text) :
    (Value.text s).equals (.text t) = (s == t) := by
  simp [equals, leafEquals, number?, text?]

namespace Entries

/- The first entry under a name is what the name stands for. -/
theorem get?_cons
    (name key : Text)
    (v : Value)
    (rest : Entries) :
    get? ((.text name, v) :: rest) key =
      if name = key then some v else rest.get? key := by
  rw [get?, find?, List.find?_cons, Value.text_equals]
  by_cases hSame : name = key
  · simp [hSame]
  · rw [if_neg hSame, beq_eq_false_iff_ne.mpr hSame]
    rfl

/- Every key is text, and stands once. -/
structure AreNamed
    (entries : Entries) : Prop where
  texts : ∀ key ∈ entries.map (·.1), ∃ name, Value.text name = key
  distinct : (entries.map (·.1)).Nodup

variable {entries others : Entries}

/- The same entries in another order have names as well. -/
theorem AreNamed.of_perm
    (hNamed : entries.AreNamed)
    (hPerm : List.Perm entries others) :
    others.AreNamed where
  texts key hMem :=
    hNamed.texts key ((hPerm.map (·.1)).mem_iff.mpr hMem)
  distinct := (hPerm.map (·.1)).nodup_iff.mp hNamed.distinct

/- Entries whose keys are texts that differ have names. -/
theorem AreNamed.of_names
    (names : List Text)
    (hKeys : entries.map (·.1) = names.map .text)
    (hDistinct : names.Nodup) :
    entries.AreNamed where
  texts key hMem := by
    rw [hKeys] at hMem
    rcases List.mem_map.mp hMem with ⟨name, -, hText⟩
    exact ⟨name, hText⟩
  distinct := hKeys ▸ hDistinct.map fun _ _ => Value.text.inj

/- What is found under a name is in the one entry with this name. -/
theorem get?_eq_some_iff
    (hNamed : entries.AreNamed)
    (name : Text)
    (v : Value) :
    entries.get? name = some v ↔ (.text name, v) ∈ entries := by
  have hKey :
      ∀ e ∈ entries, e.1.equals (.text name) = true →
        e.1 = .text name := by
    intro e hMem hEquals
    rcases hNamed.texts e.1 (List.mem_map_of_mem hMem) with ⟨key, hText⟩
    rw [← hText, Value.text_equals, beq_iff_eq] at hEquals
    rw [← hText, hEquals]
  have hSelf : (Value.text name).equals (.text name) = true := by
    rw [Value.text_equals, beq_self_eq_true]
  let isNamed : Value × Value → Bool := fun e => e.1.equals (.text name)
  change (List.find? isNamed entries).map (·.2) = some v ↔ _
  constructor
  · intro hFound
    rcases Option.map_eq_some_iff.mp hFound with ⟨⟨key, w⟩, hFirst, rfl⟩
    have hMem := List.mem_of_find?_eq_some hFirst
    have hEquals : isNamed (key, w) = true := List.find?_some hFirst
    have hName : key = .text name := hKey _ hMem hEquals
    exact hName ▸ hMem
  · intro hMem
    cases hFirst : List.find? isNamed entries with
    | none =>
        have hNone := List.find?_eq_none.mp hFirst _ hMem
        exact absurd hSelf hNone
    | some e =>
        have hFound := List.mem_of_find?_eq_some hFirst
        have hEquals : isNamed e = true := List.find?_some hFirst
        have hName := hKey e hFound hEquals
        have hSame : e = (.text name, v) :=
          List.inj_on_of_nodup_map hNamed.distinct hFound hMem hName
        rw [hSame]
        rfl

/- So what is found under a name does not depend on the order. -/
theorem get?_eq_of_perm
    (hNamed : entries.AreNamed)
    (hPerm : List.Perm entries others)
    (name : Text) :
    others.get? name = entries.get? name := by
  ext v
  have hOthers := hNamed.of_perm hPerm
  rw [get?_eq_some_iff hNamed, get?_eq_some_iff hOthers, hPerm.mem_iff]

end Entries

namespace Named

------------------------------------------------------------
-- Binding
------------------------------------------------------------

/- A name that is bound holds its value, and other names keep theirs. -/
theorem get?_bind
    (named : Named)
    (name other : Text)
    (value : Value) :
    (named.bind name value).get? other =
      if other = name then some value else named.get? other := by
  unfold get?
  induction named with
  | nil =>
      rw [bind, List.lookup_cons]
      by_cases hSame : other = name
      · rw [if_pos hSame, beq_iff_eq.mpr hSame]
      · rw [if_neg hSame, beq_eq_false_iff_ne.mpr hSame]
  | cons e rest ih =>
      rcases e with ⟨n, v⟩
      rw [bind]
      by_cases hFirst : n = name
      · subst hFirst
        rw [if_pos rfl, List.lookup_cons, List.lookup_cons]
        by_cases hSame : other = n
        · rw [if_pos hSame, beq_iff_eq.mpr hSame]
        · rw [if_neg hSame, beq_eq_false_iff_ne.mpr hSame]
      · rw [if_neg hFirst, List.lookup_cons, List.lookup_cons, ih]
        by_cases hSame : other = n
        · subst hSame
          simp only [beq_self_eq_true, hFirst, if_false]
        · simp only [beq_eq_false_iff_ne.mpr hSame]

/- Of values that are bound one after the other, the last one holds. -/
theorem get?_bindAll
    (named values : Named)
    (name : Text) :
    get? (values.foldl (fun acc e => acc.bind e.1 e.2) named) name =
      (values.reverse.lookup name).or (named.get? name) := by
  induction values generalizing named with
  | nil => rfl
  | cons e rest ih =>
      rw [List.foldl_cons, ih, get?_bind, List.reverse_cons,
        List.lookup_append, Option.or_assoc]
      congr 1
      rw [List.lookup_cons]
      by_cases hSame : name = e.1
      · rw [if_pos hSame, beq_iff_eq.mpr hSame]
        rfl
      · rw [if_neg hSame, beq_eq_false_iff_ne.mpr hSame]
        rfl

/- A name that is bound comes last, unless it has a place. -/
theorem map_bind
    (named : Named)
    (name : Text)
    (value : Value) :
    (named.bind name value).map (·.1) =
      if name ∈ named.map (·.1) then named.map (·.1)
      else named.map (·.1) ++ [name] := by
  induction named with
  | nil => rfl
  | cons e rest ih =>
      rcases e with ⟨n, v⟩
      rw [bind, List.map_cons]
      by_cases hFirst : n = name
      · rw [if_pos hFirst, if_pos (List.mem_cons.mpr (Or.inl hFirst.symm)),
          List.map_cons]
      · rw [if_neg hFirst, List.map_cons, ih]
        simp only [List.mem_cons, Ne.symm hFirst, false_or]
        split <;> rfl

/- After a name is bound, the other values are those from before. -/
theorem mem_bind
    {named : Named}
    {name : Text}
    {value : Value}
    {e : Text × Value}
    (hMem : e ∈ named.bind name value) :
    e = (name, value) ∨ e ∈ named := by
  induction named with
  | nil => exact Or.inl (List.mem_singleton.mp hMem)
  | cons first rest ih =>
      rcases first with ⟨n, v⟩
      rw [bind] at hMem
      split at hMem
      · rename_i hSame
        rcases List.mem_cons.mp hMem with hFirst | hRest
        · rw [hSame] at hFirst
          exact Or.inl hFirst
        · exact Or.inr (List.mem_cons_of_mem _ hRest)
      · rcases List.mem_cons.mp hMem with hFirst | hRest
        · rw [hFirst]
          exact Or.inr (List.mem_cons_self ..)
        · exact (ih hRest).imp_right (List.mem_cons_of_mem _)

theorem mem_bindAll
    {named values : Named}
    {e : Text × Value}
    (hMem : e ∈ values.foldl (fun acc e => acc.bind e.1 e.2) named) :
    e ∈ values ∨ e ∈ named := by
  induction values generalizing named with
  | nil => exact Or.inr hMem
  | cons first rest ih =>
      rcases ih hMem with hRest | hBound
      · exact Or.inl (List.mem_cons_of_mem _ hRest)
      · rcases mem_bind hBound with rfl | hNamed
        · exact Or.inl (List.mem_cons_self ..)
        · exact Or.inr hNamed

/- Of the names that are kept, the values are as before. -/
theorem get?_filter
    (named : Named)
    (keep : Text → Bool)
    (name : Text) :
    get? (List.filter (fun e => keep e.1) named) name =
      if keep name then named.get? name else none := by
  unfold get?
  induction named with
  | nil => exact (ite_self _).symm
  | cons e rest ih =>
      rw [List.filter_cons, List.lookup_cons]
      by_cases hSame : name = e.1
      · subst hSame
        by_cases hKeep : keep e.1 = true
        · rw [if_pos hKeep, if_pos hKeep, List.lookup_cons]
          simp only [beq_self_eq_true]
        · rw [if_neg hKeep, ih, if_neg hKeep, if_neg hKeep]
      · rw [beq_eq_false_iff_ne.mpr hSame]
        split
        · rw [List.lookup_cons, beq_eq_false_iff_ne.mpr hSame]
          exact ih
        · exact ih

/- To bind a name that is left out changes nothing of what is kept. -/
theorem filter_bind
    {keep : Text → Bool}
    {name : Text}
    (hOut : keep name = false)
    (named : Named)
    (value : Value) :
    List.filter (fun e => keep e.1) (named.bind name value) =
      List.filter (fun e => keep e.1) named := by
  induction named with
  | nil => exact List.filter_cons_of_neg (by simp [hOut])
  | cons e rest ih =>
      rcases e with ⟨n, v⟩
      rw [bind]
      by_cases hSame : n = name
      · subst hSame
        rw [if_pos rfl, List.filter_cons_of_neg (by simp [hOut]),
          List.filter_cons_of_neg (by simp [hOut])]
      · rw [if_neg hSame, List.filter_cons, List.filter_cons, ih]

theorem filter_bindAll
    {keep : Text → Bool}
    {values : Named}
    (hOut : ∀ e ∈ values, keep e.1 = false)
    (named : Named) :
    List.filter (fun e => keep e.1)
        (values.foldl (fun (acc : Named) e => acc.bind e.1 e.2) named) =
      List.filter (fun e => keep e.1) named := by
  induction values generalizing named with
  | nil => rfl
  | cons e rest ih =>
      have hFirst := hOut e (List.mem_cons_self ..)
      have hRest := fun other hMem =>
        hOut other (List.mem_cons_of_mem _ hMem)
      rw [List.foldl_cons, ih hRest, filter_bind hFirst]

------------------------------------------------------------
-- Members
------------------------------------------------------------

/- Values that can each be written are members, one for each name. -/
theorem exists_members
    {named : Named}
    {IsMember : Text × Value → String → Prop}
    (hEach :
      ∀ e ∈ named, ∃ s, e.2.json = .ok s ∧
        IsMember e (Text.jsonString e.1 ++ ": " ++ s)) :
    ∃ ss, Value.jsonEntries named.toEntries = .ok ss ∧
      List.Forall₂ IsMember named ss := by
  induction named with
  | nil => exact ⟨[], rfl, .nil⟩
  | cons e rest ih =>
      rcases hEach e (List.mem_cons_self ..) with ⟨s, hValue, hMember⟩
      rcases ih fun other hMem =>
          hEach other (List.mem_cons_of_mem _ hMem) with
        ⟨ss, hRest, hMembers⟩
      refine ⟨(Text.jsonString e.1 ++ ": " ++ s) :: ss, ?_,
        .cons hMember hMembers⟩
      rw [toEntries] at hRest ⊢
      rw [List.map_cons, Value.jsonEntries, Value.jsonKey, hValue, hRest]
      rfl

/- The object has the members in braces. -/
theorem jsonObject_of_members
    {named : Named}
    {ss : List String}
    (hMembers : Value.jsonEntries named.toEntries = .ok ss) :
    Value.jsonObject named =
      .ok ("\x7b" ++ String.intercalate ", " ss ++ "\x7d") := by
  rw [Value.jsonObject, Value.json, hMembers]
  rfl

------------------------------------------------------------
-- Distinct Names
------------------------------------------------------------

/- Every name stands once. -/
def AreDistinct
    (named : Named) : Prop :=
  (named.map (·.1)).Nodup

namespace AreDistinct

variable {named : Named}

/- What stands under a name is what is found there. -/
theorem mem_iff
    (hDistinct : named.AreDistinct)
    (name : Text)
    (value : Value) :
    (name, value) ∈ named ↔ named.get? name = some value := by
  unfold AreDistinct at hDistinct
  unfold get?
  induction named with
  | nil => exact iff_of_false List.not_mem_nil nofun
  | cons e rest ih =>
      rw [List.map_cons, List.nodup_cons] at hDistinct
      rw [List.mem_cons, List.lookup_cons]
      by_cases hSame : name = e.1
      · rw [beq_iff_eq.mpr hSame]
        have hNone : (name, value) ∉ rest := by
          intro hMem
          apply hDistinct.1
          rw [← hSame]
          exact List.mem_map_of_mem hMem
        constructor
        · rintro (hFirst | hMem)
          · rw [← hFirst]
          · exact absurd hMem hNone
        · intro hValue
          left
          rw [hSame, ← Option.some.inj hValue]
      · rw [beq_eq_false_iff_ne.mpr hSame, ← ih hDistinct.2]
        constructor
        · rintro (hFirst | hMem)
          · rw [← hFirst] at hSame
            exact absurd rfl hSame
          · exact hMem
        · exact Or.inr

/- Names that are distinct, and what is found under them, are all there is. -/
theorem eq_of_get?
    {a b : Named}
    (hFirst : a.AreDistinct)
    (hSecond : b.AreDistinct)
    (hNames : a.map (·.1) = b.map (·.1))
    (hValues : ∀ name, a.get? name = b.get? name) :
    a = b := by
  have hFound :
      ∀ named : Named, named.AreDistinct →
        named.map (fun e => (e.1, some e.2)) =
          (named.map (·.1)).map fun name => (name, named.get? name) := by
    intro named hDistinct
    rw [List.map_map]
    refine List.map_congr_left fun e hMem => ?_
    exact congrArg (Prod.mk e.1) ((hDistinct.mem_iff e.1 e.2).mp hMem).symm
  have hPairs :
      Function.Injective fun e : Text × Value => (e.1, some e.2) := by
    intro e f hSame
    rcases Prod.mk.inj hSame with ⟨hName, hValue⟩
    exact Prod.ext hName (Option.some.inj hValue)
  refine hPairs.list_map ?_
  rw [hFound a hFirst, hFound b hSecond, hNames, funext hValues]

/- So values are found from either end. -/
theorem lookup_reverse
    (hDistinct : named.AreDistinct)
    (name : Text) :
    List.lookup name named.reverse = named.get? name := by
  have hReverse : AreDistinct named.reverse := by
    rw [AreDistinct, List.map_reverse]
    exact List.nodup_reverse.mpr hDistinct
  ext value
  change get? named.reverse name = some value ↔ _
  rw [← hReverse.mem_iff, ← hDistinct.mem_iff, List.mem_reverse]

/- Binding a name keeps the names distinct. -/
theorem bind
    (hDistinct : named.AreDistinct)
    (name : Text)
    (value : Value) :
    (named.bind name value).AreDistinct := by
  unfold AreDistinct at hDistinct ⊢
  rw [map_bind]
  split
  · exact hDistinct
  · rename_i hNew
    rw [← List.concat_eq_append]
    exact hDistinct.concat hNew

/- So does binding many of them. -/
theorem bindAll
    (hDistinct : named.AreDistinct)
    (values : Named) :
    AreDistinct (values.foldl (fun acc e => acc.bind e.1 e.2) named) := by
  induction values generalizing named with
  | nil => exact hDistinct
  | cons e rest ih => exact ih (hDistinct.bind e.1 e.2)

theorem filter
    (hDistinct : named.AreDistinct)
    (keep : Text × Value → Bool) :
    AreDistinct (List.filter keep named) :=
  hDistinct.sublist (List.filter_sublist.map _)

end AreDistinct

end Named

end Joinery
