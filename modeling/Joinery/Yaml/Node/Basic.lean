import Joinery.Text.Basic

/-
  This file defines the nodes of YAML documents and the
  kinds that their tags name.

  An alias stands for a node that is written elsewhere, and
  may even stand inside that node. So the nodes of a
  document form a graph: each has a number, and a collection
  holds the numbers of its nodes.

  Key definitions include:
    * `Tag`
    * `Tag.ofText`
    * `Content`
    * `Node`
    * `Graph`
    * `Document`
-/

namespace Joinery

namespace Yaml

------------------------------------------------------------
-- Tags
------------------------------------------------------------

/- What a tag says that a node stands for. -/
inductive Tag where
  | null
  | bool
  | int
  | float
  | binary
  | timestamp
  | omap
  | pairs
  | set
  | str
  | seq
  | map
  | merge
  | value
  | unknown
  deriving DecidableEq, Repr, Inhabited

namespace Tag

/- The beginning of all standard tags. -/
def standard : String :=
  "tag:yaml.org,2002:"

/- The standard tags by the last part of their text. -/
def names : List (String × Tag) :=
  [ ("null", null), ("bool", bool), ("int", int), ("float", float),
    ("binary", binary), ("timestamp", timestamp), ("omap", omap),
    ("pairs", pairs), ("set", set), ("str", str), ("seq", seq),
    ("map", map), ("merge", merge), ("value", value) ]

/- The tag with a given text. -/
def ofText
    (text : String) : Tag :=
  ((names.find? fun e => standard ++ e.1 == text).map (·.2)).getD
    unknown

end Tag

------------------------------------------------------------
-- Nodes
------------------------------------------------------------

/- What a node holds: text, or nodes by their numbers. -/
inductive Content where
  | scalar
      (text : Text)
  | sequence
      (items : List Nat)
  | mapping
      (entries : List (Nat × Nat))
  deriving DecidableEq, Repr, Inhabited

/- A node: what it stands for, and what it holds. -/
structure Node where
  tag : Tag
  content : Content
  deriving DecidableEq, Repr, Inhabited

/- The node of which nothing is written. -/
def Node.empty : Node :=
  ⟨.null, .scalar ""⟩

------------------------------------------------------------
-- Graphs
------------------------------------------------------------

/- The nodes of a document, by their numbers. -/
structure Graph where
  nodes : Array Node := #[]
  deriving Repr, Inhabited

namespace Graph

/- How many nodes there are. -/
def size
    (graph : Graph) : Nat :=
  graph.nodes.size

/- The node with a number. -/
def node
    (graph : Graph)
    (n : Nat) : Node :=
  graph.nodes[n]?.getD Node.empty

/- The tag of the node with a number. -/
def tag
    (graph : Graph)
    (n : Nat) : Tag :=
  (graph.node n).tag

/- A graph with one more node; its number is the old size. -/
def add
    (graph : Graph)
    (node : Node) : Graph :=
  ⟨graph.nodes.push node⟩

/- A graph in which the node with a number is another one. -/
def set
    (graph : Graph)
    (n : Nat)
    (node : Node) : Graph :=
  ⟨graph.nodes.setIfInBounds n node⟩

/- A graph in which a node holds something else. -/
def setContent
    (graph : Graph)
    (n : Nat)
    (content : Content) : Graph :=
  graph.set n { graph.node n with content := content }

/- The entries of a node, if it is a mapping. -/
def entries?
    (graph : Graph)
    (n : Nat) : Option (List (Nat × Nat)) :=
  match (graph.node n).content with
  | .mapping entries => some entries
  | _ => none

end Graph

/- A document: its nodes, and the number of the outermost one. -/
structure Document where
  graph : Graph
  root : Nat
  deriving Repr, Inhabited

end Yaml

end Joinery
