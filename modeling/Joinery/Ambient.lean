/-
  This file defines the units of length, the positioning
  modes, and the ambient state that programs are built and
  compiled in.

  Key definitions include:
    * `LengthUnit`
    * `Positioning`
    * `Ambient`
-/

namespace Joinery

------------------------------------------------------------
-- Units And Modes
------------------------------------------------------------

/- The units of length that the converter understands. -/
inductive LengthUnit where
  | millimeter
  | inch
  deriving DecidableEq, Repr

namespace LengthUnit

/- All units, in the order in which messages list them. -/
def all : List LengthUnit :=
  [.millimeter, .inch]

/- The symbol a unit is written with after an amount. -/
def symbol : LengthUnit → String
  | .millimeter => "mm"
  | .inch => "in"

/- The name of a unit. -/
def name : LengthUnit → String
  | .millimeter => "MILLIMETER"
  | .inch => "INCH"

/- The unit with a given symbol. -/
def ofSymbol?
    (s : String) : Option LengthUnit :=
  all.find? fun u => u.symbol == s

end LengthUnit

/- How a machine reads coordinates. -/
inductive Positioning where
  | absolute
  | relative
  deriving DecidableEq, Repr

namespace Positioning

/- All positioning modes. -/
def all : List Positioning :=
  [.absolute, .relative]

/- The word for a positioning mode. -/
def word : Positioning → String
  | .absolute => "absolute"
  | .relative => "relative"

/- The positioning mode with a given word. -/
def ofWord?
    (s : String) : Option Positioning :=
  all.find? fun mode => mode.word == s

end Positioning

------------------------------------------------------------
-- Ambient State
------------------------------------------------------------

/-
  The unit and the positioning mode that are in force:
  millimetres and absolute coordinates, unless a scope says
  otherwise.
-/
structure Ambient where
  unit : LengthUnit := .millimeter
  mode : Positioning := .absolute
  deriving DecidableEq, Repr

end Joinery
