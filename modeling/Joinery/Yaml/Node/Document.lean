import Joinery.Yaml.Node.Implicit
import Joinery.Yaml.Token.Stream

/-
  This file reads the nodes of a YAML document from its
  tokens.

  Key definitions include:
    * `Reader`
    * `Properties`
    * `node`
    * `document`
    * `Document.ofSource?`
-/

namespace Joinery

namespace Yaml

------------------------------------------------------------
-- State
------------------------------------------------------------

/-
  The state of reading nodes: where cutting the text into
  tokens has come to, the nodes read so far, the shorthands
  for tags, the numbers of the nodes with anchors, and how
  many collections are open.
-/
structure Reader where
  cursor : Cursor
  graph : Graph := { }
  handles : List (String × String) := []
  anchors : List (String × Nat) := []
  depth : Nat := 0

/- A step of reading nodes. -/
abbrev Reading :=
  EStateM Fault Reader

/- The tokens do not form a document. -/
def unexpected
    {α : Type}
    (problem : String) : Reading α :=
  throw (.markup problem)

/- Do a step on the text. -/
def scanning
    {α : Type}
    (act : Scan α) : Reading α :=
  fun reader =>
    match act reader.cursor with
    | .ok a cursor => .ok a { reader with cursor := cursor }
    | .error fault cursor =>
        .error fault { reader with cursor := cursor }

/- The next token. -/
def next : Reading Token :=
  scanning nextToken

/- Drop the next token. -/
def drop : Reading Unit :=
  scanning dropToken

/- Drop the next token if it is a given one. -/
def accept
    (token : Token) : Reading Bool := do
  if (← next) = token then
    drop
    return true
  else return false

/- Drop the next token, which must be a given one. -/
def expect
    (token : Token)
    (problem : String) : Reading Unit := do
  if !(← accept token) then unexpected problem

------------------------------------------------------------
-- Properties
------------------------------------------------------------

/- What is written before a node: an anchor and a tag, in either order. -/
structure Properties where
  anchor : Option String := none
  tag : Option String := none

/- The full text of a tag. -/
def fullTag
    (handle : Option String)
    (suffix : String) : Reading String := do
  match handle with
  | none => return suffix
  | some h =>
      match (← get).handles.lookup h with
      | some full => return full ++ suffix
      | none => unexpected "found undefined tag handle"

/- An anchor, if one comes next. -/
def anchor? : Reading (Option String) := do
  match ← next with
  | .anchor name =>
      drop
      return some name
  | _ => return none

/- A tag, if one comes next. -/
def tag? : Reading (Option (Option String × String)) := do
  match ← next with
  | .tag handle suffix =>
      drop
      return some (handle, suffix)
  | _ => return none

/- The properties at the front. -/
def properties : Reading Properties := do
  let first ← anchor?
  let tag ← tag?
  let anchor ← if first.isSome then pure first
    else if tag.isSome then anchor?
    else pure none
  let text ← tag.mapM fun t => fullTag t.1 t.2
  return ⟨anchor, text⟩

namespace Properties

/- Nothing is written before the node. -/
def isEmpty
    (p : Properties) : Bool :=
  p.anchor.isNone && p.tag.isNone

/- No tag, or one that leaves the kind open. -/
def isOpen
    (p : Properties) : Bool :=
  p.tag.isNone || p.tag == some "!"

/- The kind of a collection. -/
def collectionTag
    (p : Properties)
    (standard : Tag) : Tag :=
  if p.isOpen then standard
  else (p.tag.map Tag.ofText).getD standard

/-
  The kind of a scalar. A tag decides; without one, the way
  a plain scalar is written does, and any other is text.
-/
def scalarTag
    (p : Properties)
    (text : Text)
    (plain : Bool) : Tag :=
  match p.tag with
  | none => if plain then Tag.ofPlain text else .str
  | some "!" => Tag.ofPlain text
  | some tag => Tag.ofText tag

end Properties

------------------------------------------------------------
-- Numbers Of Nodes
------------------------------------------------------------

/- Add a node, and give its number. -/
def add
    (node : Node) : Reading Nat := do
  let n := (← get).graph.size
  modify fun reader => { reader with graph := reader.graph.add node }
  return n

/- No two nodes have the same anchor. -/
def checkAnchor
    (anchor : Option String) : Reading Unit := do
  if let some name := anchor then
    if ((← get).anchors.lookup name).isSome then
      unexpected "found duplicate anchor"

/- Let an anchor stand for the node with a number. -/
def bindAnchor
    (anchor : Option String)
    (n : Nat) : Reading Unit := do
  if let some name := anchor then
    modify fun reader =>
      { reader with anchors := (name, n) :: reader.anchors }

/- The node that an alias stands for. -/
def aliased
    (name : String) : Reading Nat := do
  match (← get).anchors.lookup name with
  | some n => return n
  | none => unexpected "found undefined alias"

/-
  Read what a node holds. The node has its number and its
  anchor before, so that it can hold itself.
-/
def anchored
    (anchor : Option String)
    (tag : Tag)
    (read : Reading Content) : Reading Nat := do
  checkAnchor anchor
  let n ← add ⟨tag, .scalar ""⟩
  bindAnchor anchor n
  let content ← read
  modify fun reader =>
    { reader with graph := reader.graph.setContent n content }
  return n

/- How many collections can be open at once. -/
def deepest : Nat := 480

/- Read a collection, one level further in. -/
def nested
    (anchor : Option String)
    (tag : Tag)
    (read : Reading Content) : Reading Nat := do
  if deepest ≤ (← get).depth then throw .tooDeep
  modify fun reader => { reader with depth := reader.depth + 1 }
  let n ← anchored anchor tag read
  modify fun reader => { reader with depth := reader.depth - 1 }
  return n

------------------------------------------------------------
-- Nodes
------------------------------------------------------------

/- Where a node stands: what may be left out there. -/
inductive Place where
  | block
  | blockOrDashes
  | flow
  deriving DecidableEq, Repr

/- One of several tokens comes next. -/
def nextIn
    (tokens : List Token) : Reading Bool := do
  return tokens.contains (← next)

/- A node with properties alone; without any there is no node. -/
def missing
    (p : Properties) : Reading Nat :=
  if p.isEmpty then unexpected "expected the node content"
  else anchored p.anchor (p.scalarTag "" true) (return .scalar "")

mutual

/- A node, or nothing where a token that follows nodes comes next. -/
def nodeUnless
    (ends : List Token)
    (place : Place) : Nat → Reading Nat
  | 0 => throw .tooDeep
  | fuel + 1 => do
      if ← nextIn ends then add .empty
      else node place fuel

/- A node at a place: an alias, or properties and content. -/
def node
    (place : Place) : Nat → Reading Nat
  | 0 => throw .tooDeep
  | fuel + 1 => do
      match ← next with
      | .alias name =>
          drop
          aliased name
      | _ =>
          let p ← properties
          if place = .blockOrDashes then
            if (← next) = .blockEntry then
              nested p.anchor (p.collectionTag .seq) do
                return .sequence (← dashes fuel)
            else content true p fuel
          else content (place ≠ .flow) p fuel

/- The content of a node; blocks begin only outside of flow. -/
def content
    (inBlock : Bool)
    (p : Properties) : Nat → Reading Nat
  | 0 => throw .tooDeep
  | fuel + 1 => do
      match ← next, inBlock with
      | .scalar text plain, _ =>
          anchored p.anchor (p.scalarTag text plain) do
            drop
            return .scalar text
      | .flowSequenceStart, _ =>
          nested p.anchor (p.collectionTag .seq) do
            drop
            return .sequence (← flowItems true fuel)
      | .flowMappingStart, _ =>
          nested p.anchor (p.collectionTag .map) do
            drop
            return .mapping (← flowEntries true fuel)
      | .blockSequenceStart, true =>
          nested p.anchor (p.collectionTag .seq) do
            drop
            return .sequence (← blockItems fuel)
      | .blockMappingStart, true =>
          nested p.anchor (p.collectionTag .map) do
            drop
            return .mapping (← blockEntries fuel)
      | _, _ => missing p

/- Items behind dashes that are not indented further than their key. -/
def dashes : Nat → Reading (List Nat)
  | 0 => throw .tooDeep
  | fuel + 1 => do
      if ← accept .blockEntry then
        let item ←
          nodeUnless [.blockEntry, .key, .value, .blockEnd] .block fuel
        return item :: (← dashes fuel)
      else return []

/- The items of a block. -/
def blockItems : Nat → Reading (List Nat)
  | 0 => throw .tooDeep
  | fuel + 1 => do
      if ← accept .blockEntry then
        let item ← nodeUnless [.blockEntry, .blockEnd] .block fuel
        return item :: (← blockItems fuel)
      else
        expect .blockEnd "expected the end of a block"
        return []

/- The entries of a block. -/
def blockEntries : Nat → Reading (List (Nat × Nat))
  | 0 => throw .tooDeep
  | fuel + 1 => do
      if ← accept .key then
        let ends : List Token := [.key, .value, .blockEnd]
        let k ← nodeUnless ends .blockOrDashes fuel
        let v ← if ← accept .value then nodeUnless ends .blockOrDashes fuel
          else add .empty
        return (k, v) :: (← blockEntries fuel)
      else
        expect .blockEnd "expected the end of a block"
        return []

/- An entry in flow, its key marked, up to one of the ends. -/
def flowEntry
    (ends : List Token) : Nat → Reading (Nat × Nat)
  | 0 => throw .tooDeep
  | fuel + 1 => do
      drop
      let k ← nodeUnless (.value :: ends) .flow fuel
      let v ← if ← accept .value then nodeUnless ends .flow fuel
        else add .empty
      return (k, v)

/-
  The items of a sequence in flow. An item with a marked key
  is a mapping of one entry.
-/
def flowItems
    (first : Bool) : Nat → Reading (List Nat)
  | 0 => throw .tooDeep
  | fuel + 1 => do
      if ← accept .flowSequenceEnd then return []
      if !first then expect .flowEntry "expected ',' or ']'"
      match ← next with
      | .flowSequenceEnd =>
          drop
          return []
      | .key =>
          let item ← nested none .map do
            let ends : List Token := [.flowEntry, .flowSequenceEnd]
            return .mapping [← flowEntry ends fuel]
          return item :: (← flowItems false fuel)
      | _ =>
          let item ← node .flow fuel
          return item :: (← flowItems false fuel)

/- The entries of a mapping in flow. A key that is not marked has no value. -/
def flowEntries
    (first : Bool) : Nat → Reading (List (Nat × Nat))
  | 0 => throw .tooDeep
  | fuel + 1 => do
      if ← accept .flowMappingEnd then return []
      if !first then expect .flowEntry "expected a comma or a brace"
      match ← next with
      | .flowMappingEnd =>
          drop
          return []
      | .key =>
          let entry ← flowEntry [.flowEntry, .flowMappingEnd] fuel
          return entry :: (← flowEntries false fuel)
      | _ =>
          let k ← node .flow fuel
          let v ← add .empty
          return (k, v) :: (← flowEntries false fuel)

end

------------------------------------------------------------
-- Documents
------------------------------------------------------------

/- The shorthands that every document knows. -/
def standardHandles : List (String × String) :=
  [("!", "!"), ("!!", Tag.standard)]

/- A token that begins a document explicitly. -/
def beginsDocument
    (token : Token) : Bool :=
  match token with
  | .versionDirective _ _ => true
  | .tagDirective _ _ => true
  | .otherDirective => true
  | .documentStart => true
  | _ => false

/- A token before which a document has no content. -/
def endsDocument
    (token : Token) : Bool :=
  beginsDocument token || token = .documentEnd || token = .streamEnd

/-
  The directives before a document: one version at most, and
  each shorthand at most once.
-/
def directives
    (versioned : Bool) : Nat → Reading Unit
  | 0 => return
  | fuel + 1 => do
      match ← next with
      | .versionDirective major _ =>
          if versioned || major ≠ 1 then
            unexpected "found an incompatible version"
          drop
          directives true fuel
      | .tagDirective handle full =>
          let reader ← get
          if (reader.handles.lookup handle).isSome then
            unexpected "duplicate tag handle"
          set { reader with handles := (handle, full) :: reader.handles }
          drop
          directives versioned fuel
      | .otherDirective =>
          drop
          directives versioned fuel
      | _ => return

/- Drop the marks at the end of a document. -/
def dropDocumentEnds : Nat → Reading Unit
  | 0 => return
  | fuel + 1 => do
      if ← accept .documentEnd then dropDocumentEnds fuel

/- Forget the shorthands of an earlier document. -/
def forgetHandles : Reading Unit :=
  modify fun reader => { reader with handles := [] }

/- Know the standard shorthands, besides those declared. -/
def addStandardHandles : Reading Unit :=
  modify fun reader =>
    { reader with handles := reader.handles ++ standardHandles }

/- The directives and the mark at the front of a document. -/
def documentHead
    (fuel : Nat) : Reading Unit := do
  forgetHandles
  directives false fuel
  addStandardHandles
  expect .documentStart "expected the start of a document"

/- A document after its mark. -/
def markedDocument
    (fuel : Nat) : Reading Nat := do
  documentHead fuel
  if endsDocument (← next) then add .empty
  else node .block fuel

/- There is no second document. -/
def documentsEnd
    (fuel : Nat) : Reading Unit := do
  dropDocumentEnds fuel
  if (← next) ≠ .streamEnd then
    documentHead fuel
    unexpected "expected a single document"

/- The number of the outermost node, if there is a document. -/
def document
    (fuel : Nat) : Reading (Option Nat) := do
  let first ← next
  if first = .streamEnd then return none
  let root ← if beginsDocument first then markedDocument fuel
    else do
      addStandardHandles
      node .block fuel
  documentsEnd fuel
  return some root

/- More steps than the tokens of a text can take. -/
def stepBound
    (source : Source) : Nat :=
  32 * (source.text.length + 2)

/- The only document of a source, if there is one. -/
def Document.ofSource?
    (source : Source) : Outcome (Option Document) :=
  let start : Reader := { cursor := .ofSource source }
  match document (stepBound source) start with
  | .ok root reader =>
      .ok (root.map fun n => ⟨reader.graph, n⟩)
  | .error fault _ => .error fault

end Yaml

end Joinery
