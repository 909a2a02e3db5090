import Joinery.Number.Basic
import Joinery.Value.Basic

/-
  This file compares values and keeps mappings from values
  to values.

  Key definitions include:
    * `Value.number?`
    * `Number.toValue`
    * `Value.equals`
    * `Entries.find?`
    * `Entries.put`
-/

namespace Joinery

------------------------------------------------------------
-- Numbers As Values
------------------------------------------------------------

/- The number a value stands for; truth values count as 0 and 1. -/
def Value.number? : Value → Option Number
  | .bool b => some (.int (if b then 1 else 0))
  | .int n => some (.int n)
  | .float x => some (.float x)
  | .ratio q => some (.ratio q)
  | _ => none

/- A number as a value. -/
def Number.toValue : Number → Value
  | .int n => .int n
  | .float x => .float x
  | .ratio q => .ratio q

------------------------------------------------------------
-- Equality
------------------------------------------------------------

namespace Value

/- Equality of values that hold no other values. -/
def leafEquals
    (a b : Value) : Bool :=
  match a.number?, b.number? with
  | some m, some n => m.equals n
  | some _, none => false
  | none, some _ => false
  | none, none =>
      match a.text?, b.text? with
      | some s, some t => s == t
      | _, _ =>
          match a, b with
          | .null, .null => true
          | .date d, .date e => d == e
          | .moment m, .moment n => m.sameAs n
          | .bytes bs, .bytes cs => bs == cs
          | _, _ => false

mutual

/-
  Equality of values. Numbers of different kinds are equal
  when they are the same number, a unit equals its symbol,
  collections are compared item by item, and the order of
  entries does not matter.
-/
def equals : Value → Value → Bool
  | .quantity u a, .quantity v b => u.equals v && a.equals b
  | .token a, .token b => a.equals b
  | .list xs, .list ys => equalsAll xs ys
  | .tuple xs, .tuple ys => equalsAll xs ys
  | .dict es, .dict fs => es.length == fs.length && includes es fs
  | .set xs, .set ys => xs.length == ys.length && occursAll xs ys
  | a, b => leafEquals a b

/- Equality of two lists, item by item. -/
def equalsAll : List Value → List Value → Bool
  | [], [] => true
  | x :: xs, y :: ys => x.equals y && equalsAll xs ys
  | _, _ => false

/- Every entry of the first mapping is in the second. -/
def includes : Entries → Entries → Bool
  | [], _ => true
  | (k, v) :: rest, fs =>
      fs.any (fun f => k.equals f.1 && v.equals f.2) &&
        includes rest fs

/- Every item of the first list equals one of the second. -/
def occursAll : List Value → List Value → Bool
  | [], _ => true
  | x :: rest, ys => ys.any (fun y => x.equals y) && occursAll rest ys

end

end Value

------------------------------------------------------------
-- Entries
------------------------------------------------------------

namespace Entries

/- The value under a key. -/
def find?
    (entries : Entries)
    (key : Value) : Option Value :=
  (List.find? (fun e => e.1.equals key) entries).map (·.2)

/- The value under a key that is text. -/
def get?
    (entries : Entries)
    (name : Text) : Option Value :=
  Entries.find? entries (.text name)

/-
  Set the value under a key. A key that is present keeps its
  place, a new one goes to the end.
-/
def put : Entries → Value → Value → Entries
  | [], key, value => [(key, value)]
  | (k, v) :: rest, key, value =>
      if k.equals key then (k, value) :: rest
      else (k, v) :: put rest key value

/- The mapping that a sequence of settings leaves. -/
def ofList
    (settings : List (Value × Value)) : Entries :=
  settings.foldl (fun acc e => put acc e.1 e.2) []

end Entries

namespace Named

/-
  Bind a name. A name that is bound keeps its place and
  takes the new value.
-/
def bind : Named → Text → Value → Named
  | [], name, value => [(name, value)]
  | (n, v) :: rest, name, value =>
      if n = name then (n, value) :: rest
      else (n, v) :: bind rest name value

/- The value bound to a name. -/
def get?
    (named : Named)
    (name : Text) : Option Value :=
  named.lookup name

/- Named values as a mapping with text keys. -/
def toEntries
    (named : Named) : Entries :=
  named.map fun e => (.text e.1, e.2)

end Named

end Joinery
