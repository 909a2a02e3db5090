import Joinery.Fault
import Joinery.Yaml.Node.Basic

/-
  This file merges mappings into the mappings that name them
  under a merge key.

  The merge keys of a mapping are taken out one by one. What
  they bring in comes before the mapping's own entries, so
  that later entries with the same key prevail. A mapping
  that is merged into another one is itself freed of its
  merge keys before, for good.

  Key definitions include:
    * `Merging`
    * `splitMerge?`
    * `Graph.mergeKeys`
    * `flatten`
-/

namespace Joinery

namespace Yaml

/- A step of merging. -/
abbrev Merging :=
  EStateM Fault Graph

------------------------------------------------------------
-- Merge Keys
------------------------------------------------------------

/-
  The entries before the first merge key, the number of the
  node under it, and the entries after it.
-/
def splitMerge?
    (graph : Graph) :
    List (Nat × Nat) →
      Option (List (Nat × Nat) × Nat × List (Nat × Nat))
  | [] => none
  | (k, v) :: rest =>
      if graph.tag k = .merge then some ([], v, rest)
      else
        (splitMerge? graph rest).map fun (before, source, after) =>
          ((k, v) :: before, source, after)

/- How many entries of a node have a merge key. -/
def Graph.mergeKeysOf
    (graph : Graph)
    (n : Nat) : Nat :=
  ((graph.entries? n).getD []).countP fun e => graph.tag e.1 = .merge

/- How many entries with a merge key there are. -/
def Graph.mergeKeys
    (graph : Graph) : Nat :=
  (List.range graph.size).foldl (fun k n => k + graph.mergeKeysOf n) 0

------------------------------------------------------------
-- Flattening
------------------------------------------------------------

/- A graph in which an equals sign as a key is text. -/
def plainKey
    (graph : Graph)
    (k : Nat) : Graph :=
  if graph.tag k = .value then
    graph.set k { graph.node k with tag := .str }
  else graph

/- The entries of a mapping that has no merge key. -/
def takeEntries
    (n : Nat) : Merging (List (Nat × Nat)) := do
  return ((← get).entries? n).getD []

/- Put entries before those of a mapping that has no merge key. -/
def finishMerge
    (n : Nat)
    (merged : List (Nat × Nat)) : Merging Unit := do
  let entries ← takeEntries n
  modify fun graph =>
    let plain := (entries.map (·.1)).foldl plainKey graph
    plain.setContent n (.mapping (merged ++ entries))

/-
  Take the merge keys out of a mapping. Every step takes one
  out of the document, so their number bounds the depth.
-/
def flattenWith
    (n : Nat)
    (merged : List (Nat × Nat)) : Nat → Merging Unit
  | 0 => throw .tooDeep
  | fuel + 1 => do
      let mergedMapping (m : Nat) : Merging (List (Nat × Nat)) := do
        if ((← get).entries? m).isNone then
          throw (.markup "expected a mapping for merging")
        flattenWith m [] fuel
        takeEntries m
      match splitMerge? (← get) (← takeEntries n) with
      | none => finishMerge n merged
      | some (before, source, after) =>
          modify fun graph =>
            graph.setContent n (.mapping (before ++ after))
          let more ← match ((← get).node source).content with
            | .sequence items => do
                let groups ← items.mapM mergedMapping
                pure groups.reverse.flatten
            | _ => mergedMapping source
          flattenWith n (merged ++ more) fuel

/-
  Take the merge keys out of a mapping, where a document has
  at most so many.
-/
def flatten
    (n mergeKeys : Nat) : Merging Unit :=
  flattenWith n [] (mergeKeys + 1)

end Yaml

end Joinery
