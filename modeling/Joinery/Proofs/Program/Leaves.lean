import Mathlib.Data.List.Basic
import Joinery.Program.Operation

/-
  The leaves of a program are listed in the order of a walk
  that enters every group where it meets it. The walk is
  described by paths: the places taken in one group after
  the other.

  Key definitions include:
    * `Operation.IsLeaf`
    * `Operation.at?`
    * `Operation.InWalkOrder`

  Key theorems include:
    * `Operation.mem_leafPaths_iff`
    * `Operation.leafPaths_sorted`
    * `Operation.leaves_inWalkOrder`
-/

namespace Joinery

namespace Operation

------------------------------------------------------------
-- Leaves And Paths
------------------------------------------------------------

/- An operation that is no group. -/
def IsLeaf
    (op : Operation) : Prop :=
  ∀ ops, op ≠ .group ops

/- The operation at a path, if the path leads anywhere. -/
def at?
    (op : Operation) : List Nat → Option Operation
  | [] => some op
  | place :: path =>
      match op with
      | .group ops => (ops[place]?).bind fun inner => inner.at? path
      | _ => none

/-
  Operations are in walk order when they are the leaves at
  all the paths that lead to leaves, earlier places first.
-/
def InWalkOrder
    (op : Operation)
    (leaves : List Operation) : Prop :=
  ∃ paths : List (List Nat),
    paths.Pairwise (· < ·) ∧
      (∀ path,
        path ∈ paths ↔ ∃ leaf, op.at? path = some leaf ∧ leaf.IsLeaf) ∧
      paths.map op.at? = leaves.map some

mutual

/- The paths to the leaves of an operation. -/
def leafPaths : Operation → List (List Nat)
  | .group ops => allLeafPaths 0 ops
  | _ => [[]]

/- The paths to the leaves of operations that follow a place. -/
def allLeafPaths
    (place : Nat) : List Operation → List (List Nat)
  | [] => []
  | op :: rest =>
      op.leafPaths.map (place :: ·) ++ allLeafPaths (place + 1) rest

end

------------------------------------------------------------
-- Leaves Of Groups
------------------------------------------------------------

@[simp] theorem leaves_group
    (ops : List Operation) :
    (group ops).leaves = allLeaves ops := by
  rw [leaves]

theorem leaves_of_isLeaf
    {op : Operation}
    (hLeaf : op.IsLeaf) :
    op.leaves = [op] := by
  cases op with
  | group ops => exact absurd rfl (hLeaf ops)
  | instruction m args => rw [leaves]; simp
  | foreign name => rw [leaves]; simp
  | value v => rw [leaves]; simp

@[simp] theorem allLeaves_nil :
    allLeaves [] = [] := by
  rw [allLeaves]

@[simp] theorem allLeaves_cons
    (op : Operation)
    (rest : List Operation) :
    allLeaves (op :: rest) = op.leaves ++ allLeaves rest := by
  rw [allLeaves]

@[simp] theorem allLeaves_append
    (front rest : List Operation) :
    allLeaves (front ++ rest) = allLeaves front ++ allLeaves rest := by
  induction front with
  | nil => simp
  | cons op front ih => simp [ih]

mutual

/- What a walk lists are leaves. -/
theorem isLeaf_of_mem_leaves
    (op : Operation)
    {leaf : Operation}
    (hMem : leaf ∈ op.leaves) :
    leaf.IsLeaf := by
  cases op with
  | group ops =>
      rw [leaves_group] at hMem
      exact isLeaf_of_mem_allLeaves ops hMem
  | instruction m args =>
      intro ops hGroup
      simp [leaves, hGroup] at hMem
  | foreign name =>
      intro ops hGroup
      simp [leaves, hGroup] at hMem
  | value v =>
      intro ops hGroup
      simp [leaves, hGroup] at hMem

/- What a walk through several operations lists are leaves. -/
theorem isLeaf_of_mem_allLeaves
    (ops : List Operation)
    {leaf : Operation}
    (hMem : leaf ∈ allLeaves ops) :
    leaf.IsLeaf := by
  cases ops with
  | nil => simp at hMem
  | cons op rest =>
      rw [allLeaves_cons, List.mem_append] at hMem
      rcases hMem with hFirst | hRest
      · exact isLeaf_of_mem_leaves op hFirst
      · exact isLeaf_of_mem_allLeaves rest hRest

end

------------------------------------------------------------
-- Paths To Leaves
------------------------------------------------------------

@[simp] theorem at?_nil
    (op : Operation) :
    op.at? [] = some op := by
  rw [at?]

@[simp] theorem at?_group_cons
    (ops : List Operation)
    (place : Nat)
    (path : List Nat) :
    (group ops).at? (place :: path) =
      (ops[place]?).bind fun inner => inner.at? path := by
  rw [at?]

theorem at?_cons_of_isLeaf
    {op : Operation}
    (hLeaf : op.IsLeaf)
    (place : Nat)
    (path : List Nat) :
    op.at? (place :: path) = none := by
  cases op with
  | group ops => exact absurd rfl (hLeaf ops)
  | instruction m args => simp [at?]
  | foreign name => simp [at?]
  | value v => simp [at?]

theorem leafPaths_of_isLeaf
    {op : Operation}
    (hLeaf : op.IsLeaf) :
    op.leafPaths = [[]] := by
  cases op with
  | group ops => exact absurd rfl (hLeaf ops)
  | instruction m args => rw [leafPaths]; simp
  | foreign name => rw [leafPaths]; simp
  | value v => rw [leafPaths]; simp

theorem isLeaf_or_group
    (op : Operation) :
    op.IsLeaf ∨ ∃ ops, op = .group ops := by
  cases op with
  | group ops => exact Or.inr ⟨ops, rfl⟩
  | instruction m args => exact Or.inl (fun ops hGroup => by cases hGroup)
  | foreign name => exact Or.inl (fun ops hGroup => by cases hGroup)
  | value v => exact Or.inl (fun ops hGroup => by cases hGroup)

mutual

/- The paths of an operation lead to its leaves, one by one. -/
theorem map_at?_leafPaths
    (op : Operation) :
    op.leafPaths.map op.at? = op.leaves.map some := by
  cases op with
  | group ops =>
      rw [leafPaths, leaves_group]
      exact map_at?_allLeafPaths [] ops
  | instruction m args => simp [leafPaths, leaves]
  | foreign name => simp [leafPaths, leaves]
  | value v => simp [leafPaths, leaves]

/- The paths behind the first operations lead to the leaves behind them. -/
theorem map_at?_allLeafPaths
    (front rest : List Operation) :
    (allLeafPaths front.length rest).map (group (front ++ rest)).at? =
      (allLeaves rest).map some := by
  cases rest with
  | nil => simp [allLeafPaths]
  | cons op rest =>
      have hFirst :
          (op.leafPaths.map (front.length :: ·)).map
              (group (front ++ op :: rest)).at? =
            op.leaves.map some := by
        rw [← map_at?_leafPaths op, List.map_map]
        apply List.map_congr_left
        intro path _
        simp
      have hRest :=
        map_at?_allLeafPaths (front ++ [op]) rest
      rw [List.length_append, List.append_assoc] at hRest
      rw [allLeafPaths, allLeaves_cons, List.map_append, hFirst,
        List.map_append]
      exact congrArg _ hRest

end

mutual

/- Exactly the paths that lead to leaves are listed. -/
theorem mem_leafPaths_iff
    (op : Operation)
    (path : List Nat) :
    path ∈ op.leafPaths ↔
      ∃ leaf, op.at? path = some leaf ∧ leaf.IsLeaf := by
  rcases isLeaf_or_group op with hLeaf | ⟨ops, rfl⟩
  · rw [leafPaths_of_isLeaf hLeaf, List.mem_singleton]
    constructor
    · intro hPath
      subst hPath
      exact ⟨op, at?_nil op, hLeaf⟩
    · rintro ⟨leaf, hAt, -⟩
      cases path with
      | nil => rfl
      | cons place path =>
          rw [at?_cons_of_isLeaf hLeaf] at hAt
          cases hAt
  · rw [leafPaths, mem_allLeafPaths_iff ops 0 path]
    constructor
    · rintro ⟨place, tail, leaf, hPath, hAt, hLeaf⟩
      subst hPath
      refine ⟨leaf, ?_, hLeaf⟩
      rw [Nat.zero_add, at?_group_cons]
      exact hAt
    · rintro ⟨leaf, hAt, hLeaf⟩
      cases path with
      | nil =>
          rw [at?_nil] at hAt
          exact absurd (Option.some.inj hAt).symm (hLeaf ops)
      | cons place tail =>
          rw [at?_group_cons] at hAt
          exact ⟨place, tail, leaf, by rw [Nat.zero_add], hAt, hLeaf⟩

/- Exactly the paths to leaves behind a place are listed. -/
theorem mem_allLeafPaths_iff
    (ops : List Operation)
    (start : Nat)
    (path : List Nat) :
    path ∈ allLeafPaths start ops ↔
      ∃ place tail leaf, path = (start + place) :: tail ∧
        (ops[place]?).bind (fun inner => inner.at? tail) = some leaf ∧
          leaf.IsLeaf := by
  cases ops with
  | nil => simp [allLeafPaths]
  | cons op rest =>
      rw [allLeafPaths, List.mem_append, List.mem_map,
        mem_allLeafPaths_iff rest (start + 1) path]
      constructor
      · rintro (⟨tail, hTail, hPath⟩ |
          ⟨place, tail, leaf, hPath, hAt, hLeaf⟩)
        · rcases (mem_leafPaths_iff op tail).mp hTail with
            ⟨leaf, hAt, hLeaf⟩
          exact ⟨0, tail, leaf, hPath.symm, by simpa using hAt, hLeaf⟩
        · refine ⟨place + 1, tail, leaf, ?_, by simpa using hAt, hLeaf⟩
          rw [hPath]
          congr 1
          omega
      · rintro ⟨place, tail, leaf, hPath, hAt, hLeaf⟩
        cases place with
        | zero =>
            refine Or.inl ⟨tail, ?_, hPath.symm⟩
            exact (mem_leafPaths_iff op tail).mpr
              ⟨leaf, by simpa using hAt, hLeaf⟩
        | succ place =>
            refine Or.inr
              ⟨place, tail, leaf, ?_, by simpa using hAt, hLeaf⟩
            rw [hPath]
            congr 1
            omega

end

mutual

/- Earlier leaves have earlier paths. -/
theorem leafPaths_sorted
    (op : Operation) :
    op.leafPaths.Pairwise (· < ·) := by
  rcases isLeaf_or_group op with hLeaf | ⟨ops, rfl⟩
  · rw [leafPaths_of_isLeaf hLeaf]
    exact List.pairwise_singleton _ _
  · rw [leafPaths]
    exact allLeafPaths_sorted ops 0

/- A place comes before the places behind it, whatever follows. -/
theorem allLeafPaths_sorted
    (ops : List Operation)
    (start : Nat) :
    (allLeafPaths start ops).Pairwise (· < ·) := by
  cases ops with
  | nil => simp [allLeafPaths]
  | cons op rest =>
      rw [allLeafPaths, List.pairwise_append]
      refine ⟨?_, allLeafPaths_sorted rest (start + 1), ?_⟩
      · rw [List.pairwise_map]
        exact (leafPaths_sorted op).imp fun hLess =>
          List.cons_lt_cons_self.mpr hLess
      · intro early hEarly late hLate
        rcases List.mem_map.mp hEarly with ⟨tail, -, rfl⟩
        rcases (mem_allLeafPaths_iff rest (start + 1) late).mp hLate with
          ⟨place, lateTail, -, rfl, -⟩
        exact List.Lex.rel (by omega)

end

/- The leaves of a program are listed in walk order. -/
theorem leaves_inWalkOrder
    (op : Operation) :
    op.InWalkOrder op.leaves :=
  ⟨op.leafPaths, leafPaths_sorted op, mem_leafPaths_iff op,
    map_at?_leafPaths op⟩

end Operation

end Joinery
