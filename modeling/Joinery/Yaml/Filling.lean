import Joinery.Value.Equal
import Joinery.Yaml.Merge
import Joinery.Yaml.Scalar

/-
  This file makes values of scalars, and fills collections
  with what they hold.

  A document is gone through level by level: a collection is
  put off when it is met, and filled after all collections
  that were put off before. The first fault in this order is
  the one reported. A collection that holds itself is met
  again as one that is already known.

  Key definitions include:
    * `Part`
    * `Filling`
    * `Building`
    * `part`
    * `fill`
    * `fillAll`
-/

namespace Joinery

namespace Yaml

------------------------------------------------------------
-- Parts
------------------------------------------------------------

/-
  Which value a value is. Every scalar makes a value of its
  own, but the double that is no number has one name, and
  who names it always gets the same.
-/
inductive Identity where
  | ofNode
      (n : Nat)
  | ofNan
  deriving DecidableEq, Repr

/- What a node has become: a value, or a collection by its number. -/
inductive Part where
  | leaf
      (v : Value)
      (identity : Identity)
  | collection
      (n : Nat)
  deriving Inhabited

/- A key of a mapping. -/
structure Key where
  value : Value
  identity : Identity

/- Two keys are the same if they are equal, or one and the same value. -/
def Key.sameAs
    (a b : Key) : Bool :=
  a.identity = b.identity || a.value.equals b.value

/- What a collection holds: items, pairs, entries, or members. -/
inductive Filling where
  | items
      (parts : List Part)
  | pairs
      (parts : List (Part × Part))
  | entries
      (parts : List (Key × Part))
  | members
      (keys : List Key)
  deriving Inhabited

/-
  Set the part under a key. A key that is present stays as
  it is, a new one goes to the end.
-/
def putEntry :
    List (Key × Part) → Key → Part → List (Key × Part)
  | [], key, part => [(key, part)]
  | (k, p) :: rest, key, part =>
      if k.sameAs key then (k, part) :: rest
      else (k, p) :: putEntry rest key part

------------------------------------------------------------
-- State
------------------------------------------------------------

/-
  How far a document has been gone through: its nodes, how
  many merge keys it had, what nodes have become, the
  collections that are put off, the last one first, and what
  the others hold.
-/
structure Building where
  graph : Graph
  mergeKeys : Nat
  parts : Array (Option Part)
  putOff : List Nat := []
  fillings : Array (Option Filling)

/- A step of going through a document. -/
abbrev Build :=
  EStateM Fault Building

/- Before anything is gone through. -/
def Building.start
    (graph : Graph) : Building :=
  { graph := graph
    mergeKeys := graph.mergeKeys
    parts := Array.replicate graph.size none
    fillings := Array.replicate graph.size none }

/- The node with a number. -/
def nodeAt
    (n : Nat) : Build Node := do
  return (← get).graph.node n

/- The document is not well formed. -/
def illFormed
    {α : Type}
    (problem : String) : Build α :=
  throw (.markup problem)

/- What is computed on the side may fail. -/
def computed
    {α : Type}
    (outcome : Outcome α) : Build α :=
  match outcome with
  | .ok a => return a
  | .error fault => throw fault

------------------------------------------------------------
-- Scalars
------------------------------------------------------------

/-
  The text of a node that must be a scalar. A mapping stands
  for the scalar under its equals sign. A mapping without
  end has none.
-/
def scalarText
    (graph : Graph)
    (n : Nat) : Nat → Outcome Text
  | 0 => fail .tooDeep
  | fuel + 1 =>
      match (graph.node n).content with
      | .scalar text => .ok text
      | .sequence _ => fail (.markup "expected a scalar node")
      | .mapping entries =>
          match entries.find? fun e => graph.tag e.1 = .value with
          | some (_, v) => scalarText graph v fuel
          | none => fail (.markup "expected a scalar node")

/- Kinds of which no value can be made. -/
def isHollow : Tag → Bool
  | .merge | .value | .unknown => true
  | _ => false

/- A day or a moment is read from a scalar itself. -/
def checkTimestamp
    (node : Node) : Build Unit := do
  match node.tag, node.content with
  | .timestamp, .mapping _ => throw .notScalar
  | _, _ => return

/- The value of a scalar. -/
def leaf
    (n : Nat) : Build Part := do
  let node ← nodeAt n
  if isHollow node.tag then
    illFormed "could not determine a constructor for the tag"
  let graph := (← get).graph
  let text ← computed (scalarText graph n (graph.size + 1))
  checkTimestamp node
  let v ← computed (scalarValue node.tag text)
  let identity :=
    if node.tag = .float && namesNan text then Identity.ofNan
    else .ofNode n
  return .leaf v identity

------------------------------------------------------------
-- Nodes
------------------------------------------------------------

/- Kinds that stand for collections. -/
def isCollection : Tag → Bool
  | .seq | .map | .set | .omap | .pairs => true
  | _ => false

/- Put a collection off. -/
def putOff
    (n : Nat) : Build Part := do
  modify fun b => { b with putOff := n :: b.putOff }
  return .collection n

/- What a node becomes, unless that is known. -/
def part
    (n : Nat) : Build Part := do
  match ((← get).parts[n]?).join with
  | some known => return known
  | none =>
      let new ← if isCollection (← nodeAt n).tag then putOff n else leaf n
      modify fun b =>
        { b with parts := b.parts.setIfInBounds n (some new) }
      return new

/- What a key becomes. No collection can be a key. -/
def key
    (n : Nat) : Build Key := do
  match ← part n with
  | .leaf v identity => return ⟨v, identity⟩
  | .collection _ => illFormed "found unhashable key"

------------------------------------------------------------
-- Collections
------------------------------------------------------------

/- Take the merge keys out of a mapping. -/
def mergeInto
    (n : Nat) : Build Unit := do
  let b ← get
  match flatten n b.mergeKeys b.graph with
  | .ok _ graph => set { b with graph := graph }
  | .error fault _ => throw fault

/- The items of a node that must be a sequence. -/
def itemsOf
    (n : Nat) : Build (List Nat) := do
  match (← nodeAt n).content with
  | .sequence items => return items
  | _ => illFormed "expected a sequence node"

/- The entries of a node that must be a mapping. -/
def entriesOf
    (n : Nat) : Build (List (Nat × Nat)) := do
  match (← get).graph.entries? n with
  | some entries => return entries
  | none => illFormed "expected a mapping node"

/- What the entries of a mapping become, one after the other. -/
def filledEntries :
    List (Nat × Nat) → List (Key × Part) → Build (List (Key × Part))
  | [], done => return done
  | (k, v) :: rest, done => do
      let name ← key k
      let value ← part v
      filledEntries rest (putEntry done name value)

/- The entries of a mapping with those merged into it. -/
def mappingEntries
    (n : Nat) : Build (List (Key × Part)) := do
  let _ ← entriesOf n
  mergeInto n
  filledEntries (← entriesOf n) []

/- The pair that a mapping of one entry stands for. -/
def pairOf
    (n : Nat) : Build (Part × Part) := do
  match ← entriesOf n with
  | [(k, v)] =>
      let first ← part k
      let second ← part v
      return (first, second)
  | _ => illFormed "expected a mapping of length 1"

/- What a collection holds. -/
def fillingOf
    (n : Nat) : Build Filling := do
  match (← nodeAt n).tag with
  | .map => return .entries (← mappingEntries n)
  | .set => return .members ((← mappingEntries n).map (·.1))
  | .omap | .pairs => return .pairs (← (← itemsOf n).mapM pairOf)
  | _ => return .items (← (← itemsOf n).mapM part)

/- Fill a collection. -/
def fill
    (n : Nat) : Build Unit := do
  let filling ← fillingOf n
  modify fun b =>
    { b with fillings := b.fillings.setIfInBounds n (some filling) }

/-
  Fill the collections that are put off, and those put off
  meanwhile. Every round but the last fills one at least.
-/
def fillAll : Nat → Build Unit
  | 0 => return
  | rounds + 1 => do
      let now := (← get).putOff.reverse
      if now.isEmpty then return
      modify fun b => { b with putOff := [] }
      now.forM fill
      fillAll rounds

/- Go through a document. What its outermost node becomes. -/
def buildFrom
    (root : Nat) : Build Part := do
  let outermost ← part root
  fillAll ((← get).graph.size + 1)
  return outermost

end Yaml

end Joinery
