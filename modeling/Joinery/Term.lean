import Joinery.Measure

/-
  This file defines terms: descriptions of values in which
  a measure may be converted, and the ambient state may be
  asked for, at the moment of evaluation.

  Key definitions include:
    * `Term`
    * `Term.eval`
    * `Term.evalNamed`
-/

namespace Joinery

------------------------------------------------------------
-- Terms
------------------------------------------------------------

/- A description of a value. -/
inductive Term where
  | value
      (v : Value)
  | integer
      (digits : Text)
  | ratio
      (above below : Text)
  | quantity
      (unit amount : Term)
  | token
      (name : Term)
  | list
      (items : List Term)
  | tuple
      (items : List Term)
  | dict
      (entries : List (Term × Term))
  | converted
      (measure : Term)
  | ambientUnit
  | ambientMode
  deriving Inhabited

/- A token of a value that is not empty. -/
def Value.asToken
    (name : Value) : Outcome Value :=
  if name.truthy then .ok (.token name) else fail .emptyToken

/- The ratio of two integers, which must not be divided by zero. -/
def Value.asRatio
    (above below : Int) : Outcome Value :=
  if below = 0 then fail .divisionByZero
  else .ok (.ratio ((above : Rat) / below))

/- Set the value under a key, which must be of a fixed kind. -/
def Entries.putChecked
    (entries : Entries)
    (key value : Value) : Outcome Entries :=
  if key.hashable then .ok (entries.put key value)
  else fail (.notHashable key.kind)

namespace Term

------------------------------------------------------------
-- Evaluation
------------------------------------------------------------

mutual

/- The value of a term, its parts from left to right. -/
def eval
    (ambient : Ambient) : Term → Outcome Value
  | .value v => .ok v
  | .integer digits => (Number.readInteger digits.chars).map .int
  | .ratio above below => do
      let p ← Number.readInteger above.chars
      let q ← Number.readInteger below.chars
      Value.asRatio p q
  | .quantity u a => do
      let unit ← u.eval ambient
      let amount ← a.eval ambient
      return .quantity unit amount
  | .token name => do (← name.eval ambient).asToken
  | .list items => do return .list (← evalAll ambient items)
  | .tuple items => do return .tuple (← evalAll ambient items)
  | .dict entries => do return .dict (← evalEntries ambient [] entries)
  | .converted measure => do
      convert ambient.unit (← measure.eval ambient) none
  | .ambientUnit => .ok (.text ambient.unit.symbol)
  | .ambientMode => .ok (.text ambient.mode.word)

/- The values of a list of terms. -/
def evalAll
    (ambient : Ambient) : List Term → Outcome (List Value)
  | [] => .ok []
  | t :: rest => do
      let v ← t.eval ambient
      return v :: (← evalAll ambient rest)

/- The mapping that pairs of terms describe. -/
def evalEntries
    (ambient : Ambient)
    (acc : Entries) : List (Term × Term) → Outcome Entries
  | [] => .ok acc
  | (k, v) :: rest => do
      let key ← k.eval ambient
      let value ← v.eval ambient
      evalEntries ambient (← acc.putChecked key value) rest

end

/- The named values that named terms describe. -/
def evalNamed
    (ambient : Ambient)
    (terms : List (Text × Term)) : Outcome Named :=
  terms.foldlM
    (fun acc term => do return acc.bind term.1 (← term.2.eval ambient))
    []

end Term

end Joinery
