import Joinery.Proofs.Json.Scalars
import Joinery.Proofs.Value.Named

/-
  Named values that are written as a JSON object are read
  back, under their names as these are read. Where two names
  are read as one, the last value holds.

  Key definitions include:
    * `Named.asRead`
    * `Named.AreScalars`
    * `Json.ReadsMember`

  Key theorems include:
    * `Named.get?_asRead`
    * `Json.members?_intercalate`
    * `Json.exists_object`
-/

namespace Joinery

/- A named value as it is read. -/
def Json.entryAsRead
    (e : Text × Value) : Text × Value :=
  (e.1.asRead, e.2.asRead)

/- Named values as they are read. -/
def Named.asRead
    (named : Named) : Named :=
  (named.map Json.entryAsRead).foldl (fun acc e => acc.bind e.1 e.2) []

/- Named values that each fit into one word or string. -/
def Named.AreScalars
    (named : Named) : Prop :=
  ∀ e ∈ named, e.2.IsScalar

/- Bound one after the other, such values stay what they are. -/
theorem Named.AreScalars.bindAll
    {named values : Named}
    (hNamed : named.AreScalars)
    (hValues : values.AreScalars) :
    AreScalars (values.foldl (fun acc e => acc.bind e.1 e.2) named) := by
  intro e hMem
  rcases mem_bindAll hMem with hBound | hKept
  · exact hValues e hBound
  · exact hNamed e hKept

/- What is the only value under a key is found there. -/
theorem Named.lookup_of_only
    {named : Named}
    {name : Text}
    {value : Value}
    (hMem : (name, value) ∈ named)
    (hOnly : ∀ e ∈ named, e.1 = name → e.2 = value) :
    List.lookup name named = some value := by
  cases hFound : List.lookup name named with
  | none =>
      have hNone := List.lookup_eq_none_iff.mp hFound _ hMem
      exact absurd rfl (bne_iff_ne.mp hNone)
  | some found =>
      rw [← hOnly _ (Json.mem_of_lookup hFound) rfl]

/- A name that is read as no other one is read with its value. -/
theorem Named.get?_asRead
    {named : Named}
    (hDistinct : named.AreDistinct)
    {name : Text}
    {value : Value}
    (hMem : (name, value) ∈ named)
    (hOnly : ∀ e ∈ named, e.1.asRead = name.asRead → e.1 = name) :
    named.asRead.get? name.asRead = some value.asRead := by
  have hMemRead :
      (name.asRead, value.asRead) ∈ (named.map Json.entryAsRead).reverse :=
    List.mem_reverse.mpr (List.mem_map.mpr ⟨(name, value), hMem, rfl⟩)
  have hOnlyRead :
      ∀ e ∈ (named.map Json.entryAsRead).reverse, e.1 = name.asRead →
        e.2 = value.asRead := by
    intro e hMemToo hName
    rcases List.mem_map.mp (List.mem_reverse.mp hMemToo) with
      ⟨⟨other, found⟩, hEntry, rfl⟩
    have hSame : other = name := hOnly _ hEntry hName
    subst hSame
    rw [hDistinct.mem_iff] at hMem hEntry
    rw [hMem] at hEntry
    cases hEntry
    rfl
  rw [asRead, get?_bindAll, lookup_of_only hMemRead hOnlyRead]
  rfl

/- So is a name of short characters, which is read as itself. -/
theorem Named.get?_asRead_ofString
    {named : Named}
    (hDistinct : named.AreDistinct)
    {name : String}
    (hShort : Json.AreShort name.toList)
    {value : Value}
    (hFound : named.get? name = some value) :
    named.asRead.get? name = some value.asRead := by
  have hRead :=
    get?_asRead hDistinct ((hDistinct.mem_iff _ _).mpr hFound)
      fun e _ hSame =>
        Text.eq_of_asRead hShort
          (hSame.trans (Text.asRead_ofString name))
  rwa [Text.asRead_ofString] at hRead

namespace Json

------------------------------------------------------------
-- Members
------------------------------------------------------------

/- How the text of a named value is read. -/
structure ReadsMember
    (e : Text × Value)
    (s : String) : Prop where
  printable : IsPrintable s.toList
  quoted : ∃ rest, s.toList = '\x22' :: rest
  member :
    ∀ c rest, c = ',' ∨ c = '\x7d' →
      member? (s.toList ++ c :: rest) =
        some (entryAsRead e, c :: rest)

/- A name and a value, with a colon between them, are read as both. -/
theorem ReadsMember.ofValue
    {e : Text × Value}
    {s : String}
    (hValue : Reads s e.2.asRead) :
    ReadsMember e (Text.jsonString e.1 ++ ": " ++ s) where
  printable := by
    rw [String.toList_append, String.toList_append]
    exact ((jsonString_printable e.1).append (by decide)).append
      hValue.printable
  quoted := by
    rw [String.toList_append, String.toList_append, Text.jsonString,
      String.toList_ofList]
    exact ⟨_, rfl⟩
  member c rest hStop := by
    have hText :
        (Text.jsonString e.1 ++ ": " ++ s).toList ++ c :: rest =
          '\x22' ::
            (e.1.letters.flatMap Text.jsonLetter ++
              '\x22' :: ':' :: ' ' :: (s.toList ++ c :: rest)) := by
      rw [String.toList_append, String.toList_append, Text.jsonString,
        String.toList_ofList]
      simp
    have hBlank :
        skip (' ' :: (s.toList ++ c :: rest)) = s.toList ++ c :: rest :=
      hValue.start (c :: rest)
    have hEnd : skip (c :: rest) = c :: rest := by
      rcases hStop with rfl | rfl <;> rfl
    rw [hText, member?]
    change (string? _).bind _ = _
    rw [string?_jsonString, Option.bind_some]
    change (scalar? (skip (' ' :: (s.toList ++ c :: rest)))).map _ = _
    rw [hBlank, hValue.scalar c rest hStop, Option.map_some]
    simp only [hEnd]
    rfl

/- A blank before a member is passed over. -/
theorem members?_blank
    (tries : Nat)
    (named : Named)
    (cs : List Char) :
    members? tries named (' ' :: cs) = members? tries named cs := by
  cases tries <;> rfl

/- Members with commas between them are read one after the other. -/
theorem members?_intercalate
    {e : Text × Value}
    {s : String}
    {named : Named}
    {ss : List String}
    (hFirst : ReadsMember e s)
    (hRest : List.Forall₂ ReadsMember named ss)
    {tries : Nat}
    (hTries : named.length < tries)
    (found : Named)
    (after : List Char) :
    members? tries found
        ((String.intercalate ", " (s :: ss)).toList ++ '\x7d' :: after) =
      some
        (((e :: named).map entryAsRead).foldl
          (fun acc e => acc.bind e.1 e.2) found, after) := by
  induction hRest generalizing e s tries found with
  | nil =>
      cases tries with
      | zero => exact absurd hTries (Nat.lt_irrefl 0)
      | succ tries =>
          have hMember := hFirst.member '\x7d' after (Or.inr rfl)
          rw [String.intercalate_singleton, members?, hMember,
            Option.bind_some]
          rfl
  | cons hNext hMore ih =>
      rename_i e' s' named ss
      cases tries with
      | zero => exact absurd hTries (Nat.not_lt_zero _)
      | succ tries =>
          have hText :
              (String.intercalate ", " (s :: s' :: ss)).toList ++
                  '\x7d' :: after =
                s.toList ++ ',' :: ' ' ::
                  ((String.intercalate ", " (s' :: ss)).toList ++
                    '\x7d' :: after) := by
            rw [String.intercalate_cons_cons, String.toList_append,
              String.toList_append]
            simp
          have hMember :=
            hFirst.member ','
              (' ' :: ((String.intercalate ", " (s' :: ss)).toList ++
                '\x7d' :: after)) (Or.inl rfl)
          have hFound :=
            ih hNext (Nat.lt_of_succ_lt_succ hTries)
              (found.bind (entryAsRead e).1 (entryAsRead e).2)
          rw [hText, members?, hMember, Option.bind_some]
          change members? tries _ (' ' :: _) = _
          rw [members?_blank, hFound]
          rfl

------------------------------------------------------------
-- Objects
------------------------------------------------------------

/- Members with commas between them are printable. -/
theorem intercalate_printable
    {named : Named}
    {ss : List String}
    (hMembers : List.Forall₂ ReadsMember named ss) :
    IsPrintable (String.intercalate ", " ss).toList := by
  induction hMembers with
  | nil => exact List.forall_mem_nil _
  | cons hFirst hRest ih =>
      cases hRest with
      | nil =>
          rw [String.intercalate_singleton]
          exact hFirst.printable
      | cons hNext hMore =>
          rw [String.intercalate_cons_cons, String.toList_append,
            String.toList_append]
          exact (hFirst.printable.append (by decide)).append ih

/- There is a separator before every member but the first. -/
theorem length_intercalate
    (s : String)
    (ss : List String) :
    ss.length ≤ (String.intercalate ", " (s :: ss)).toList.length := by
  induction ss generalizing s with
  | nil => exact Nat.zero_le _
  | cons next rest ih =>
      have hRest := ih next
      have hComma : ", ".toList.length = 2 := rfl
      rw [String.intercalate_cons_cons, String.toList_append,
        String.toList_append, List.length_append, List.length_append,
        hComma, List.length_cons]
      omega

/- Members in braces are read as an object. -/
theorem object?_intercalate
    {e : Text × Value}
    {s : String}
    {named : Named}
    {ss : List String}
    (hFirst : ReadsMember e s)
    (hRest : List.Forall₂ ReadsMember named ss) :
    object?
        ('\x7b' ::
          ((String.intercalate ", " (s :: ss)).toList ++ ['\x7d'])) =
      some (Named.asRead (e :: named)) := by
  have hQuote :
      ∃ rest,
        (String.intercalate ", " (s :: ss)).toList ++ ['\x7d'] =
          '\x22' :: rest := by
    rcases hFirst.quoted with ⟨rest, hQuoted⟩
    cases hRest with
    | nil =>
        rw [String.intercalate_singleton, hQuoted]
        exact ⟨_, rfl⟩
    | cons hNext hMore =>
        rw [String.intercalate_cons_cons, String.toList_append,
          String.toList_append, hQuoted]
        exact ⟨_, rfl⟩
  have hTries :
      named.length <
        ((String.intercalate ", " (s :: ss)).toList ++ ['\x7d']).length := by
    have hSeparators := length_intercalate s ss
    rw [List.length_append, hRest.length_eq, List.length_singleton]
    omega
  have hMembers := members?_intercalate hFirst hRest hTries [] []
  rcases hQuote with ⟨rest, hQuote⟩
  rw [hQuote] at hMembers ⊢
  change (members? _ [] ('\x22' :: rest)).bind _ = _
  rw [hMembers]
  rfl

/-
  Named scalars are written as an object on one line, and it
  is read as them.
-/
theorem exists_object
    {named : Named}
    (hScalars : named.AreScalars) :
    ∃ s, Value.jsonObject named = .ok s ∧
      IsPrintable s.toList ∧
      object? s.toList = some named.asRead := by
  have hEach :
      ∀ e ∈ named, ∃ s, e.2.json = .ok s ∧
        ReadsMember e (Text.jsonString e.1 ++ ": " ++ s) := by
    intro e hMem
    rcases exists_json (hScalars e hMem) with ⟨s, hValue, hReads⟩
    exact ⟨s, hValue, .ofValue hReads⟩
  rcases Named.exists_members hEach with ⟨ss, hEntries, hMembers⟩
  refine ⟨_, Named.jsonObject_of_members hEntries, ?_, ?_⟩
  · rw [String.toList_append, String.toList_append]
    have hOpen : IsPrintable "\x7b".toList := by decide
    exact (hOpen.append (intercalate_printable hMembers)).append
      (by decide)
  · rw [String.toList_append, String.toList_append]
    cases hMembers with
    | nil => rfl
    | cons hFirst hRest => exact object?_intercalate hFirst hRest

end Json

end Joinery
