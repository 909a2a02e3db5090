import Joinery.Fault
import Joinery.Text.Json
import Joinery.Value.Equal

/-
  This file writes values as JSON on one line.

  Key definitions include:
    * `Value.json`
    * `Value.jsonObject`
-/

namespace Joinery

namespace Value

/- A double; what is no number or infinite has a name. -/
def jsonDouble
    (x : Float) : String :=
  match Binary.ofFloat x with
  | .nan => "NaN"
  | .infinite true => "-Infinity"
  | .infinite false => "Infinity"
  | .finite _ _ _ => Decimal.doubleText x

/- An integer, if it can be written. -/
def jsonInteger
    (n : Int) : Outcome String :=
  if Decimal.exceedsLimit n then fail .integerTooLong
  else .ok (Decimal.integerText n)

/- A truth value. -/
def jsonBool
    (b : Bool) : String :=
  if b then "true" else "false"

/- The key of an entry as a JSON string. -/
def jsonKey
    (key : Value) : Outcome String :=
  match key with
  | .text t => .ok (Text.jsonString t)
  | .unit u => .ok (Text.jsonString u.symbol)
  | .int n => (jsonInteger n).map fun s => Text.jsonString s
  | .float x => .ok (Text.jsonString (jsonDouble x))
  | .bool b => .ok (Text.jsonString (jsonBool b))
  | .null => .ok (Text.jsonString "null")
  | _ => fail (.notJson key.kind)

mutual

/- A value as JSON. Quantities, ratios, and dates have no JSON. -/
def json : Value → Outcome String
  | .null => .ok "null"
  | .bool b => .ok (jsonBool b)
  | .int n => jsonInteger n
  | .float x => .ok (jsonDouble x)
  | .text t => .ok (Text.jsonString t)
  | .unit u => .ok (Text.jsonString u.symbol)
  | .list items => do
      return "[" ++ String.intercalate ", " (← jsonAll items) ++ "]"
  | .tuple items => do
      return "[" ++ String.intercalate ", " (← jsonAll items) ++ "]"
  | .dict entries => do
      return "\x7b" ++ String.intercalate ", " (← jsonEntries entries) ++
        "\x7d"
  | v => fail (.notJson v.kind)

/- The items of a list as JSON. -/
def jsonAll : List Value → Outcome (List String)
  | [] => .ok []
  | v :: rest => do
      let first ← v.json
      return first :: (← jsonAll rest)

/- The entries of a mapping as JSON. -/
def jsonEntries : Entries → Outcome (List String)
  | [] => .ok []
  | (k, v) :: rest => do
      let key ← jsonKey k
      let value ← v.json
      return (key ++ ": " ++ value) :: (← jsonEntries rest)

end

/- Named values as a JSON object. -/
def jsonObject
    (named : Named) : Outcome String :=
  json (.dict named.toEntries)

end Value

end Joinery
