import Joinery.Value.Equal

/-
  This file defines the operations that programs are made
  of.

  Key definitions include:
    * `Operation`
    * `Operation.leaves`
    * `Operation.kind`
    * `Operation.equals`
-/

namespace Joinery

------------------------------------------------------------
-- Operations
------------------------------------------------------------

/-
  An operation: one machine instruction, or a group of
  operations to any depth. Grouping only fixes the order.
  Programs can also hold operations of a foreign kind and
  values that are no operations; no machine runs these.
-/
inductive Operation where
  | instruction
      (mnemonic : Value)
      (args : List Value)
  | group
      (operations : List Operation)
  | foreign
      (name : String)
  | value
      (v : Value)
  deriving Inhabited

namespace Operation

/- The word for the kind of an operation in messages. -/
def kind : Operation → String
  | .instruction _ _ => "Instruction"
  | .group _ => "Program"
  | .foreign name => name
  | .value v => v.kind

mutual

/- The operations that are not groups, in order of execution. -/
def leaves : Operation → List Operation
  | .group ops => allLeaves ops
  | op => [op]

/- The leaves of several operations, one after the other. -/
def allLeaves : List Operation → List Operation
  | [] => []
  | op :: rest => op.leaves ++ allLeaves rest

end

mutual

/-
  Equality of operations, field by field. Foreign operations
  have no fields.
-/
def equals : Operation → Operation → Bool
  | .instruction m as, .instruction n bs =>
      m.equals n && Value.equalsAll as bs
  | .group ops, .group others => equalsAll ops others
  | .foreign a, .foreign b => a == b
  | .value v, .value w => v.equals w
  | _, _ => false

/- Equality of two lists of operations, one by one. -/
def equalsAll : List Operation → List Operation → Bool
  | [], [] => true
  | x :: xs, y :: ys => x.equals y && equalsAll xs ys
  | _, _ => false

end

------------------------------------------------------------
-- Views Of The Top Operation
------------------------------------------------------------

/- How many items an operation or a value has, if it has items. -/
def length? : Operation → Option Nat
  | .group ops => some ops.length
  | .value (.list items) => some items.length
  | .value (.tuple items) => some items.length
  | .value (.set items) => some items.length
  | .value (.dict entries) => some entries.length
  | .value (.bytes bs) => some bs.length
  | .value v => v.text?.map Text.length
  | _ => none

end Operation

end Joinery
