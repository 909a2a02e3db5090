import Joinery.Gcode.Numeral
import Joinery.Measure
import Joinery.Program.Operation
import Joinery.Text.UpperCase

/-
  This file writes one instruction as one line of G-code.

  Key definitions include:
    * `Line.word`
    * `Line.ofValue`
    * `Line.ofOperand`
    * `Line.ofArgument`
    * `Line.ofInstruction`
    * `Line.ofOperation`
-/

namespace Joinery

namespace Line

------------------------------------------------------------
-- Words
------------------------------------------------------------

/- A keyword is written in capitals. -/
def keyword
    (name : Value) : Outcome Text :=
  match name.text? with
  | some t => .ok t.upperCase
  | none => fail (.noAttribute name.kind "upper")

/- The value that is printed for an axis, in the ambient unit. -/
def resolve
    (unit : LengthUnit)
    (v : Value) : Outcome Value :=
  match v with
  | .quantity _ _ =>
      match convert unit v none with
      | .ok n => .ok n
      | .error fault =>
          if fault.family = .kind then fail (.unknownOperand v)
          else .error fault
  | _ => .ok v

/-
  The numeral of an axis value. Only finite integers and
  doubles have one; the integers must fit a double.
-/
def ofValue
    (unit : LengthUnit)
    (v : Value) : Outcome String := do
  match ← resolve unit v with
  | .int n =>
      let _ ← (Number.int n).toDouble
      Numeral.ofInt n
  | .float x =>
      if Decimal.isFinite x then Numeral.ofFloat x
      else fail (.unknownOperand v)
  | _ => fail (.unknownOperand v)

/-
  An axis value whose double, bare or the amount of a
  quantity, may be of a class that shows its numbers in its
  own way.
-/
structure Operand where
  value : Value
  shown? : Option Text

/- The double of such a class that is not converted, and what it shows. -/
def Operand.own?
    (unit : LengthUnit)
    (operand : Operand) : Option (Float × Text) := do
  let shown ← operand.shown?
  match operand.value with
  | .float x => some (x, shown)
  | .quantity name (.float x) =>
      if name.equals (.unit unit) then some (x, shown) else none
  | _ => none

/- The numeral of an axis value, however it shows its double. -/
def ofOperand
    (unit : LengthUnit)
    (operand : Operand) : Outcome String :=
  match operand.own? unit with
  | none => ofValue unit operand.value
  | some (x, shown) =>
      if Decimal.isFinite x then Numeral.ofShown x shown
      else fail (.unknownOperand operand.value)

/- An axis word: the capitals of its name, then its numeral. -/
def word
    (unit : LengthUnit)
    (name v : Value) : Outcome Text := do
  let key ← keyword name
  let numeral ← ofValue unit v
  return key ++ numeral

------------------------------------------------------------
-- Arguments
------------------------------------------------------------

/-
  The text of an argument: words for a mapping, a keyword
  for a token, and text as it is.
-/
def ofArgument
    (unit : LengthUnit)
    (arg : Value) : Outcome Text :=
  match arg with
  | .dict entries => do
      let words ← entries.mapM fun e => word unit e.1 e.2
      return Text.joined " " words
  | .token name => keyword name
  | _ =>
      match arg.text? with
      | some t => .ok t
      | none => fail (.unknownOperand arg)

------------------------------------------------------------
-- Instructions
------------------------------------------------------------

/- An instruction: its mnemonic and its arguments, a space apart. -/
def ofInstruction
    (unit : LengthUnit)
    (mnemonic : Value)
    (args : List Value) : Outcome Text := do
  let head ← keyword mnemonic
  let rest ← args.mapM (ofArgument unit)
  return Text.joined " " (head :: rest)

/- The line of an operation. Only instructions have one. -/
def ofOperation
    (unit : LengthUnit)
    (op : Operation) : Outcome Text :=
  match op with
  | .instruction mnemonic args => ofInstruction unit mnemonic args
  | _ => fail (.unsupportedOperation op.kind)

end Line

end Joinery
