import Joinery.Program.Build

/-
  This file defines recipes, the descriptions from which
  programs are built.

  Key definitions include:
    * `Recipe`
    * `Recipe.build`
    * `Recipe.run`
-/

namespace Joinery

------------------------------------------------------------
-- Recipes
------------------------------------------------------------

/-
  A description of an operation. Terms in it are evaluated,
  and scopes entered, in the order in which it is written.
-/
inductive Recipe where
  | instruction
      (mnemonic : Term)
      (args : List Term)
  | group
      (parts : List Recipe)
  | nest
      (levels : Nat)
      (part : Recipe)
  | copies
      (count : Nat)
      (part : Recipe)
  | prompt
      (message : Term)
  | probe
      (axis : Term)
  | resetCoordinates
      (coordinates : List (Text × Term))
  | rapid
      (axes : List (Text × Term))
  | move
      (axes : List (Text × Term))
  | awaitMoves
  | unitMode
      (unit : Term)
  | positioningMode
      (mode : Term)
  | unitScope
      (unit : Term)
      (body : Recipe)
  | positioningScope
      (mode : Term)
      (body : Recipe)
  | inUnit
      (unit : Term)
      (part : Recipe)
  | inPositioning
      (mode : Term)
      (part : Recipe)
  | orElse
      (part fallback : Recipe)
  | failing
      (message : Text)
  | foreign
      (name : String)
  | value
      (term : Term)
  deriving Inhabited

namespace Recipe

/- The value of a term in the ambient state. -/
def term
    (t : Term) : Build Value :=
  Build.reading fun ambient => t.eval ambient

/- The values of named terms in the ambient state. -/
def named
    (terms : List (Text × Term)) : Build Named :=
  Build.reading fun ambient => Term.evalNamed ambient terms

/- The unit that a term must name. -/
def unit
    (t : Term) : Build LengthUnit :=
  Build.reading fun ambient => do
    LengthUnit.ofValue (← t.eval ambient)

/- The positioning mode that a term must name. -/
def mode
    (t : Term) : Build Positioning :=
  Build.reading fun ambient => do
    Positioning.ofValue (← t.eval ambient)

/- An operation in a number of groups, one in the other. -/
def nested
    (op : Operation) : Nat → Operation
  | 0 => op
  | levels + 1 => .group [nested op levels]

/- The results of building the same thing a number of times. -/
def times
    (body : Build Operation) : Nat → Build (List Operation)
  | 0 => return []
  | count + 1 => do
      let op ← body
      return op :: (← times body count)

mutual

/- Build the operation that a recipe describes. -/
def build : Recipe → Build Operation
  | .instruction mnemonic args => do
      let m ← term mnemonic
      let vs ← Build.reading fun ambient => Term.evalAll ambient args
      Build.ofOutcome (Instruction.make m vs)
  | .group parts => do return .group (← buildAll parts)
  | .nest levels part => do return nested (← build part) levels
  | .copies count part => do return .group (← times (build part) count)
  | .prompt message => do return Instruction.prompt (← term message)
  | .probe axis => do
      Build.ofOutcome (Instruction.probe (← term axis))
  | .resetCoordinates coordinates => do
      return Instruction.resetCoordinates (← named coordinates)
  | .rapid axes => do return Instruction.rapid (← named axes)
  | .move axes => do return Instruction.move (← named axes)
  | .awaitMoves => return Instruction.awaitMoves
  | .unitMode u => do return Instruction.ofUnit (← unit u)
  | .positioningMode m => do
      return Instruction.ofPositioning (← mode m)
  | .unitScope u body => do Build.unitScope (← unit u) (build body)
  | .positioningScope m body => do
      Build.positioningScope (← mode m) (build body)
  | .inUnit u part => do Build.withinUnit (← unit u) (build part)
  | .inPositioning m part => do
      Build.withinPositioning (← mode m) (build part)
  | .orElse part fallback => Build.orElse (build part) (build fallback)
  | .failing message => throw (.raised message)
  | .foreign name => return .foreign name
  | .value t => do return .value (← term t)

/- Build the operations of a group, from left to right. -/
def buildAll : List Recipe → Build (List Operation)
  | [] => return []
  | part :: rest => do
      let op ← build part
      return op :: (← buildAll rest)

end

/- What a recipe builds in an ambient state. -/
def run
    (recipe : Recipe)
    (ambient : Ambient) : Outcome Operation :=
  (recipe.build ambient).1

end Recipe

end Joinery
