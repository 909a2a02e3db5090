import Joinery.Gcode.Line

/-
  This file compiles programs to lines of G-code. A program
  that fails part way has still given all lines before the
  failure.

  Key definitions include:
    * `Listing`
    * `Listing.ofLeaves`
    * `Listing.ofProgram`
    * `Listing.text`
    * `render`
-/

namespace Joinery

------------------------------------------------------------
-- Listings
------------------------------------------------------------

/- The lines a program gives, and the fault that stops it, if any. -/
structure Listing where
  lines : List Text
  fault : Option Fault

namespace Listing

/- One line per leaf, up to the first leaf that has none. -/
def ofLeaves
    (unit : LengthUnit) : List Operation → Listing
  | [] => ⟨[], none⟩
  | op :: rest =>
      match Line.ofOperation unit op with
      | .error fault => ⟨[], some fault⟩
      | .ok line =>
          let listing := ofLeaves unit rest
          ⟨line :: listing.lines, listing.fault⟩

/- Only a group can be compiled as a program. -/
def leaves
    (op : Operation) : Outcome (List Operation) :=
  match op with
  | .group ops => .ok (Operation.allLeaves ops)
  | _ => fail (.noAttribute op.kind "flatten")

/- The listing of a program in a unit. -/
def ofProgram
    (unit : LengthUnit)
    (op : Operation) : Listing :=
  match leaves op with
  | .ok ops => ofLeaves unit ops
  | .error fault => ⟨[], some fault⟩

/- The lines as text, each one ended. -/
def text
    (listing : Listing) : Text :=
  Text.join (listing.lines.map fun line => line ++ "\n")

/- How many lines a complete listing has. -/
def count
    (listing : Listing) : Outcome Nat :=
  match listing.fault with
  | none => .ok listing.lines.length
  | some fault => .error fault

end Listing

/- The text of a program that compiles completely. -/
def render
    (unit : LengthUnit)
    (op : Operation) : Outcome Text :=
  let listing := Listing.ofProgram unit op
  match listing.fault with
  | none => .ok listing.text
  | some fault => .error fault

end Joinery
