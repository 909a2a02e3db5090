import Joinery.Proofs.Program.Leaves

/-
  All operations of a program, the groups and what they hold,
  are listed in the order of a walk that names a group before
  it enters it. The leaves come in the same order in it as
  they do in a walk that names leaves only.

  Key definitions include:
    * `Operation.Node`
    * `Operation.InOutlineOrder`
    * `Operation.nodes`

  Key theorems include:
    * `Operation.mem_nodes_iff`
    * `Operation.nodes_inOutlineOrder`
    * `Operation.leaves_eq_filter`
-/

namespace Joinery

namespace Operation

------------------------------------------------------------
-- Nodes
------------------------------------------------------------

/- An operation of a program, with the path that leads to it. -/
structure Node where
  path : List Nat
  operation : Operation

/- How many groups a node is in. -/
def Node.depth
    (node : Node) : Nat :=
  node.path.length

/- A node of the operation at a place of a group is one of the group. -/
def Node.inGroup
    (place : Nat)
    (node : Node) : Node :=
  { node with path := place :: node.path }

/-
  Nodes are in outline order when they are the operations at
  all paths that lead anywhere, a group before what it holds
  and earlier places first.
-/
def InOutlineOrder
    (op : Operation)
    (nodes : List Node) : Prop :=
  nodes.Pairwise (fun early late => early.path < late.path) ∧
    ∀ node, node ∈ nodes ↔ op.at? node.path = some node.operation

mutual

/- The nodes of an operation, itself included. -/
def nodes : Operation → List Node
  | .group ops => ⟨[], .group ops⟩ :: allNodes 0 ops
  | op => [⟨[], op⟩]

/- The nodes of operations that follow a place of a group. -/
def allNodes
    (place : Nat) : List Operation → List Node
  | [] => []
  | op :: rest =>
      op.nodes.map (Node.inGroup place) ++ allNodes (place + 1) rest

end

/- An operation is a group. -/
def isGroup : Operation → Bool
  | .group _ => true
  | _ => false

theorem isGroup_of_isLeaf
    {op : Operation}
    (hLeaf : op.IsLeaf) :
    op.isGroup = false := by
  cases op with
  | group ops => exact absurd rfl (hLeaf ops)
  | instruction m args => rfl
  | foreign name => rfl
  | value v => rfl

theorem nodes_of_isLeaf
    {op : Operation}
    (hLeaf : op.IsLeaf) :
    op.nodes = [⟨[], op⟩] := by
  cases op with
  | group ops => exact absurd rfl (hLeaf ops)
  | instruction m args => rw [nodes]; simp
  | foreign name => rw [nodes]; simp
  | value v => rw [nodes]; simp

------------------------------------------------------------
-- Order Of The Nodes
------------------------------------------------------------

mutual

/- Exactly the operations that a path leads to are nodes. -/
theorem mem_nodes_iff
    (op : Operation)
    (node : Node) :
    node ∈ op.nodes ↔ op.at? node.path = some node.operation := by
  rcases node with ⟨path, inner⟩
  rcases isLeaf_or_group op with hLeaf | ⟨ops, rfl⟩
  · rw [nodes_of_isLeaf hLeaf, List.mem_singleton, Node.mk.injEq]
    cases path with
    | nil => simp [eq_comm]
    | cons place path => simp [at?_cons_of_isLeaf hLeaf]
  · rw [nodes, List.mem_cons, Node.mk.injEq, mem_allNodes_iff ops 0]
    cases path with
    | nil => simp [eq_comm]
    | cons place path => simp

/- Exactly what a path behind a place leads to is a node there. -/
theorem mem_allNodes_iff
    (ops : List Operation)
    (start : Nat)
    (node : Node) :
    node ∈ allNodes start ops ↔
      ∃ place tail, node.path = (start + place) :: tail ∧
        (ops[place]?).bind (fun inner => inner.at? tail) =
          some node.operation := by
  rcases node with ⟨path, inner⟩
  cases ops with
  | nil => simp [allNodes]
  | cons op rest =>
      rw [allNodes, List.mem_append, List.mem_map,
        mem_allNodes_iff rest (start + 1)]
      constructor
      · rintro (⟨⟨tail, _⟩, hTail, hNode⟩ | ⟨place, tail, hPath, hAt⟩)
        · cases hNode
          refine ⟨0, tail, rfl, ?_⟩
          simpa using (mem_nodes_iff op _).mp hTail
        · refine ⟨place + 1, tail, ?_, by simpa using hAt⟩
          rw [hPath]
          congr 1
          omega
      · rintro ⟨place, tail, hPath, hAt⟩
        cases place with
        | zero =>
            refine Or.inl ⟨⟨tail, inner⟩, ?_, ?_⟩
            · exact (mem_nodes_iff op _).mpr (by simpa using hAt)
            · rw [Node.inGroup, Node.mk.injEq]
              exact ⟨hPath.symm, rfl⟩
        | succ place =>
            refine Or.inr ⟨place, tail, ?_, by simpa using hAt⟩
            rw [hPath]
            congr 1
            omega

end

mutual

/- A group comes before what it holds. -/
theorem nodes_sorted
    (op : Operation) :
    op.nodes.Pairwise fun early late => early.path < late.path := by
  rcases isLeaf_or_group op with hLeaf | ⟨ops, rfl⟩
  · rw [nodes_of_isLeaf hLeaf]
    exact List.pairwise_singleton _ _
  · rw [nodes, List.pairwise_cons]
    refine ⟨?_, allNodes_sorted ops 0⟩
    intro node hNode
    rcases (mem_allNodes_iff ops 0 node).mp hNode with
      ⟨place, tail, hPath, -⟩
    rw [hPath]
    exact List.nil_lt_cons _ _

/- What is at a place comes before what is behind it. -/
theorem allNodes_sorted
    (ops : List Operation)
    (start : Nat) :
    (allNodes start ops).Pairwise fun early late =>
      early.path < late.path := by
  cases ops with
  | nil => simp [allNodes]
  | cons op rest =>
      rw [allNodes, List.pairwise_append]
      refine ⟨?_, allNodes_sorted rest (start + 1), ?_⟩
      · rw [List.pairwise_map]
        exact (nodes_sorted op).imp fun hLess =>
          List.cons_lt_cons_self.mpr hLess
      · intro early hEarly late hLate
        rcases List.mem_map.mp hEarly with ⟨node, -, rfl⟩
        rcases (mem_allNodes_iff rest (start + 1) late).mp hLate with
          ⟨place, lateTail, hPath, -⟩
        rw [hPath]
        exact List.Lex.rel (by omega)

end

/- The nodes of a program are listed in outline order. -/
theorem nodes_inOutlineOrder
    (op : Operation) :
    op.InOutlineOrder op.nodes :=
  ⟨nodes_sorted op, mem_nodes_iff op⟩

------------------------------------------------------------
-- Leaves Among The Nodes
------------------------------------------------------------

mutual

/- The leaves are the nodes that are no groups. -/
theorem leaves_eq_filter
    (op : Operation) :
    op.leaves =
      (op.nodes.map Node.operation).filter fun inner =>
        !inner.isGroup := by
  rcases isLeaf_or_group op with hLeaf | ⟨ops, rfl⟩
  · simp [nodes_of_isLeaf hLeaf, leaves_of_isLeaf hLeaf,
      isGroup_of_isLeaf hLeaf]
  · rw [leaves_group, allLeaves_eq_filter ops 0, nodes]
    simp [isGroup]

/- The leaves of several operations are among their nodes. -/
theorem allLeaves_eq_filter
    (ops : List Operation)
    (start : Nat) :
    allLeaves ops =
      ((allNodes start ops).map Node.operation).filter fun inner =>
        !inner.isGroup := by
  cases ops with
  | nil => simp [allNodes]
  | cons op rest =>
      have hSame :
          (op.nodes.map (Node.inGroup start)).map Node.operation =
            op.nodes.map Node.operation := by
        rw [List.map_map]
        rfl
      rw [allLeaves_cons, allNodes, List.map_append, List.filter_append,
        hSame, ← leaves_eq_filter op, ← allLeaves_eq_filter rest]

end

end Operation

end Joinery
