import Joinery.Value.Scatter
import Joinery.Yaml.Filling

/-
  This file makes values of filled collections.

  Collections that hold each other, and so themselves, come
  into one table, and each of them becomes a knot of this
  table. All others are made of the values that they hold.

  Key definitions include:
    * `Filling.links`
    * `Web`
    * `Web.inside`
    * `Web.ring`
    * `Tie.collection`
    * `Tie.part`
-/

namespace Joinery

namespace Yaml

------------------------------------------------------------
-- Links
------------------------------------------------------------

/- The number of the collection that a part is, if it is one. -/
def Part.link? : Part → Option Nat
  | .leaf _ _ => none
  | .collection n => some n

/- The collections that a collection holds. -/
def Filling.links : Filling → List Nat
  | .items parts => parts.filterMap Part.link?
  | .pairs parts =>
      parts.flatMap fun p => [p.1, p.2].filterMap Part.link?
  | .entries parts => parts.filterMap fun e => e.2.link?
  | .members _ => []

/- The fillings of collections, by number. -/
abbrev Fillings :=
  Array (Option Filling)

/- What the collection with a number holds. -/
def fillingAt
    (fillings : Fillings)
    (n : Nat) : Filling :=
  (fillings[n]?).join.getD (.items [])

/- Which collections hold which, and how many links there are. -/
structure Web where
  links : Array (List Nat)
  count : Nat

namespace Web

/- The web of filled collections. -/
def ofFillings
    (fillings : Fillings) : Web :=
  let links := fillings.map fun filling =>
    (filling.map Filling.links).getD []
  ⟨links, links.foldl (fun count l => count + l.length) 0⟩

/- The collections that the one with a number holds. -/
def linksAt
    (web : Web)
    (n : Nat) : List Nat :=
  web.links[n]?.getD []

/-
  Mark the collections that can be reached from those at the
  front. Every step either marks one, and puts its links to
  the front, or takes one off that is marked.
-/
def reach
    (web : Web) : Nat → List Nat → Array Bool → Array Bool
  | 0, _, marks => marks
  | _, [], marks => marks
  | fuel + 1, n :: front, marks =>
      if marks[n]?.getD true then web.reach fuel front marks
      else
        web.reach fuel (web.linksAt n ++ front)
          (marks.setIfInBounds n true)

/- The collections inside the one with a number, at any depth, marked. -/
def inside
    (web : Web)
    (n : Nat) : Array Bool :=
  let none := Array.replicate web.links.size false
  let front := web.linksAt n
  web.reach (web.count + front.length + 1) front none

/- The second of two collections is inside the first. -/
def holds
    (web : Web)
    (n m : Nat) : Bool :=
  (web.inside n)[m]?.getD false

/-
  The collections that hold the one with a number, and that
  it holds. There are none unless it holds itself.
-/
def ring
    (web : Web)
    (n : Nat) : List Nat :=
  let below := web.inside n
  if below[n]?.getD false then
    (List.range web.links.size).filter fun m =>
      below[m]?.getD false && web.holds m n
  else []

end Web

------------------------------------------------------------
-- Values
------------------------------------------------------------

/- The values of collections that are known, by number. -/
abbrev Tie :=
  StateM (Array (Option Value))

namespace Tie

/- Note the value of a collection. -/
def note
    (n : Nat)
    (v : Value) : Tie Unit :=
  modify fun known => known.setIfInBounds n (some v)

/- The value of a filling, given that of every collection in it. -/
def filling
    (value : Nat → Tie Value) : Filling → Tie Value
  | .items parts => return .list (← parts.mapM (ofPart value))
  | .pairs parts => do
      return .list (← parts.mapM fun p => do
        return .tuple [← ofPart value p.1, ← ofPart value p.2])
  | .entries parts => do
      return .dict (← parts.mapM fun e => do
        return (e.1.value, ← ofPart value e.2))
  | .members keys => return .set (Scatter.scattered (keys.map (·.value)))
where
  ofPart (value : Nat → Tie Value) : Part → Tie Value
    | .leaf v _ => return v
    | .collection n => value n

/-
  The value of a collection. A ring of collections becomes a
  table, in which they refer back to each other.
-/
def collection
    (fillings : Fillings)
    (web : Web) : Nat → Nat → Tie Value
  | 0, _ => return .null
  | depth + 1, n => do
      match ((← get)[n]?).join with
      | some v => return v
      | none =>
          let members := web.ring n
          let value (m : Nat) : Tie Value :=
            match members.idxOf? m with
            | some place => return .back place
            | none => collection fillings web depth m
          if members.isEmpty then
            let v ← filling value (fillingAt fillings n)
            note n v
            return v
          else
            let table ← members.mapM fun m =>
              filling value (fillingAt fillings m)
            for (m, place) in members.zipIdx do
              note m (.knot table place)
            return .knot table (members.idxOf n)

/- The value of a part. -/
def part
    (fillings : Fillings) : Part → Value
  | .leaf v _ => v
  | .collection n =>
      let unknown := Array.replicate fillings.size none
      let web := Web.ofFillings fillings
      (collection fillings web (fillings.size + 1) n unknown).1

end Tie

end Yaml

end Joinery
