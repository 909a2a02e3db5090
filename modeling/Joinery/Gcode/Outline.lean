import Joinery.Gcode.Line

/-
  This file outlines a program: one line per group and per
  instruction, indented by depth.

  Key definitions include:
    * `Outline.Entry`
    * `Outline.entries`
    * `outline`
-/

namespace Joinery

namespace Outline

/- A line of an outline, without its indentation. -/
structure Entry where
  depth : Nat
  label : Text
  deriving DecidableEq, Repr

/- The label of a group: how many operations it holds itself. -/
def groupLabel
    (ops : List Operation) : String :=
  s!"[{ops.length}]"

mutual

/-
  The entries of an operation: a group comes before its
  operations, which are one level deeper.
-/
def entries
    (unit : LengthUnit)
    (depth : Nat) : Operation → Outcome (List Entry)
  | .group ops => do
      let rest ← allEntries unit (depth + 1) ops
      return ⟨depth, groupLabel ops⟩ :: rest
  | .instruction mnemonic args => do
      return [⟨depth, ← Line.ofInstruction unit mnemonic args⟩]
  | .foreign name => fail (.unsupportedOperation name)
  | .value v => fail (.unsupportedOperation v.kind)

/- The entries of several operations of one depth. -/
def allEntries
    (unit : LengthUnit)
    (depth : Nat) : List Operation → Outcome (List Entry)
  | [] => .ok []
  | op :: rest => do
      let first ← entries unit depth op
      return first ++ (← allEntries unit depth rest)

end

/- An entry as a line, with the indentation once per level. -/
def Entry.text
    (indent : Text)
    (e : Entry) : Text :=
  indent.times e.depth ++ e.label ++ "\n"

/- The indentation of a level unless another one is asked for. -/
def defaultIndent : Text := "  "

end Outline

/- The outline of a program that compiles completely. -/
def outline
    (unit : LengthUnit)
    (indent : Text)
    (op : Operation) : Outcome Text := do
  let entries ← Outline.entries unit 0 op
  return Text.join (entries.map (Outline.Entry.text indent))

end Joinery
