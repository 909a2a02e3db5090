import Joinery.Yaml.Knot
import Joinery.Yaml.Node.Document

/-
  This file makes values of YAML documents.

  Key definitions include:
    * `Document.value`
    * `load`
-/

namespace Joinery

namespace Yaml

/- The value of a document. -/
def Document.value
    (document : Document) : Outcome Value :=
  let start := Building.start document.graph
  match buildFrom document.root start with
  | .ok outermost building =>
      .ok (Tie.part building.fillings outermost)
  | .error fault _ => .error fault

/-
  The value of the only document of a source; where there is
  none, the value is null.
-/
def loadSource
    (source : Source) : Outcome Value := do
  match ← Document.ofSource? source with
  | some document => document.value
  | none => return .null

/- The value of the document that the bytes of a file hold. -/
def load
    (bytes : List UInt8) : Outcome Value :=
  loadSource (Source.ofBytes bytes)

end Yaml

end Joinery
