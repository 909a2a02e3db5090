import Joinery.Ambient
import Joinery.Calendar
import Joinery.Text.Basic

/-
  This file defines the values that job files and programs
  hold: numbers of three kinds, text, quantities, and
  collections of values.

  Key definitions include:
    * `Value`
    * `Value.opened`
    * `Value.kind`
    * `Value.truthy`
    * `Value.hashable`
-/

namespace Joinery

------------------------------------------------------------
-- Values
------------------------------------------------------------

/-
  A value. A quantity pairs an amount with a unit, and
  neither is checked until the quantity is converted; a
  token is a bare keyword of an instruction.

  A collection that holds itself, directly or through other
  collections, is a knot: a table of these collections, and
  the place of one of them. In the table, a reference back
  to a place stands for the collection there.
-/
inductive Value where
  | null
  | bool
      (b : Bool)
  | int
      (n : Int)
  | float
      (x : Float)
  | ratio
      (q : Rat)
  | text
      (t : Text)
  | unit
      (u : LengthUnit)
  | quantity
      (unit amount : Value)
  | token
      (name : Value)
  | list
      (items : List Value)
  | tuple
      (items : List Value)
  | dict
      (entries : List (Value × Value))
  | date
      (d : Day)
  | moment
      (m : Moment)
  | bytes
      (bs : List UInt8)
  | set
      (items : List Value)
  | knot
      (table : List Value)
      (place : Nat)
  | back
      (place : Nat)
  deriving Inhabited

/- The entries of a mapping, in the order of their first insertion. -/
abbrev Entries :=
  List (Value × Value)

/- Values with the names they are passed under. -/
abbrev Named :=
  List (Text × Value)

namespace Value

/- A quantity in millimetres. -/
def mm
    (amount : Value) : Value :=
  .quantity (.unit .millimeter) amount

/- A quantity in inches. -/
def inch
    (amount : Value) : Value :=
  .quantity (.unit .inch) amount

------------------------------------------------------------
-- Knots
------------------------------------------------------------

/- What a reference back into a table stands for. -/
def tied
    (table : List Value) : Value → Value
  | .back place => .knot table place
  | v => v

/-
  An item of a collection in a table. A pair in it may also
  refer back.
-/
def tiedItem
    (table : List Value) : Value → Value
  | .tuple items => .tuple (items.map (tied table))
  | v => v.tied table

/- A value whose items can be looked at, one level deep. -/
def opened
    (v : Value) : Value :=
  match v with
  | .knot table place =>
      match table[place]? with
      | some (.list items) => .list (items.map (tiedItem table))
      | some (.dict entries) =>
          .dict (entries.map fun e => (e.1, e.2.tied table))
      | _ => .null
  | _ => v

------------------------------------------------------------
-- Kinds
------------------------------------------------------------

/- The word for the kind of a value that is no knot. -/
def ownKind : Value → String
  | .null => "NoneType"
  | .bool _ => "bool"
  | .int _ => "int"
  | .float _ => "float"
  | .ratio _ => "Fraction"
  | .text _ => "str"
  | .unit _ => "Unit"
  | .quantity _ _ => "Quantity"
  | .token _ => "Token"
  | .list _ => "list"
  | .tuple _ => "tuple"
  | .dict _ => "dict"
  | .date _ => "date"
  | .moment _ => "datetime"
  | .bytes _ => "bytes"
  | .set _ => "set"
  | .knot _ _ => "list"
  | .back _ => "list"

/- The word for the kind of a value in messages. -/
def kind
    (v : Value) : String :=
  v.opened.ownKind

/- The kind of a value with the family it belongs to. -/
def fullKind
    (v : Value) : String :=
  match v with
  | .date _ => "datetime.date"
  | .moment _ => "datetime.datetime"
  | _ => v.kind

/-
  A value counts as present unless it is null, false, zero,
  or empty.
-/
def truthy : Value → Bool
  | .null => false
  | .bool b => b
  | .int n => n != 0
  | .float x => x != 0.0
  | .ratio q => q != 0
  | .text t => !t.isEmpty
  | .unit _ => true
  | .quantity _ _ => true
  | .token _ => true
  | .list items => !items.isEmpty
  | .tuple items => !items.isEmpty
  | .dict entries => !entries.isEmpty
  | .date _ => true
  | .moment _ => true
  | .bytes bs => !bs.isEmpty
  | .set items => !items.isEmpty
  | .knot _ _ => true
  | .back _ => true

mutual

/- Only values that never change can be the key of an entry. -/
def hashable : Value → Bool
  | .list _ => false
  | .dict _ => false
  | .set _ => false
  | .knot _ _ => false
  | .back _ => false
  | .quantity u a => u.hashable && a.hashable
  | .token name => name.hashable
  | .tuple items => allHashable items
  | _ => true

/- Every value of a list can be a key. -/
def allHashable : List Value → Bool
  | [] => true
  | v :: rest => v.hashable && allHashable rest

end

/- The text of a value that is text; a unit is text too. -/
def text? : Value → Option Text
  | .text t => some t
  | .unit u => some u.symbol
  | _ => none

end Value

end Joinery
