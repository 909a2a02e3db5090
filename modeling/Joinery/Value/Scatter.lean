import Joinery.Decimal.Binary
import Joinery.Value.Basic

/-
  This file knows the order in which the members of a set of
  numbers stand.

  A set is scattered over a table with a power of two as its
  size. A member has its place by its remainder; where that
  is taken, other places are tried. The members stand in the
  order of their places.

  Key definitions include:
    * `residue?`
    * `tableSize`
    * `place`
    * `scattered`
-/

namespace Joinery

namespace Scatter

------------------------------------------------------------
-- Remainders
------------------------------------------------------------

/- How many bits a remainder has. -/
def residueBits : Nat := 61

/- The number by which remainders are taken, one below a power of two. -/
def modulus : Nat :=
  Nat.pow 2 residueBits - 1

/- The remainder of infinity. -/
def infinityResidue : Nat := 314159

/- A remainder with its sign. One below zero is never used. -/
def signed
    (negative : Bool)
    (n : Nat) : Int :=
  if !negative then n
  else if n = 1 then -2
  else -(n : Int)

/-
  The remainder of a number; equal numbers of different
  kinds have equal ones. To shift a remainder by all its
  bits leaves it as it is.
-/
def residue? : Value → Option Int
  | .bool b => some (if b then 1 else 0)
  | .int n => some (signed (n < 0) (n.natAbs % modulus))
  | .float x =>
      match Binary.ofFloat x with
      | .nan => none
      | .infinite negative => some (signed negative infinityResidue)
      | .finite negative m e =>
          let shift := (e.emod residueBits).toNat
          some (signed negative (m * Nat.pow 2 shift % modulus))
  | _ => none

------------------------------------------------------------
-- Places
------------------------------------------------------------

/- The smallest table, and how many members it has room for. -/
def smallest : Nat := 8

/- The size from which on a table is larger than a number, by doubling. -/
def doubled
    (least : Nat) : Nat → Nat → Nat
  | 0, size => size
  | fuel + 1, size =>
      if size ≤ least then doubled least fuel (2 * size) else size

/- The size of the table of so many members. -/
def tableSize
    (count : Nat) : Nat :=
  if count < 5 then smallest else doubled (2 * count) count smallest

/- How many places after a tried one are tried as well. -/
def neighbours : Nat := 9

/- The places that are tried from a place on, without wrapping around. -/
def tried
    (size place : Nat) : List Nat :=
  if place + neighbours < size then
    List.range' place (neighbours + 1)
  else [place]

/-
  The first free place for a remainder. Between two tries
  the upper bits of the remainder are mixed in, until there
  are none left.
-/
def place
    (taken : List Nat)
    (size : Nat) : Nat → Nat → Nat → Nat
  | 0, _, start => start
  | fuel + 1, upper, start =>
      match (tried size start).find? fun p => !taken.contains p with
      | some free => free
      | none =>
          let rest := upper / 32
          place taken size fuel rest ((5 * start + 1 + rest) % size)

/- A remainder without its sign, in the bits of a word. -/
def word
    (residue : Int) : Nat :=
  (residue.emod (Nat.pow 2 64)).toNat

/- The place of one more remainder in a table. -/
def placeOf
    (taken : List Nat)
    (size : Nat)
    (residue : Int) : Nat :=
  let bits := word residue
  place taken size (size + 64) bits (bits % size)

------------------------------------------------------------
-- Sets
------------------------------------------------------------

/- The places of remainders that come one after the other. -/
def places
    (size : Nat) : List Nat → List Int → List Nat
  | _, [] => []
  | taken, residue :: rest =>
      let p := placeOf taken size residue
      p :: places size (p :: taken) rest

/-
  The members of a set in the order in which they stand. A
  set that does not hold numbers only keeps the order in
  which its members came.
-/
def scattered
    (members : List Value) : List Value :=
  match members.mapM residue? with
  | none => members
  | some residues =>
      let ps := places (tableSize members.length) [] residues
      ((ps.zip members).mergeSort fun a b => a.1 ≤ b.1).map (·.2)

end Scatter

end Joinery
