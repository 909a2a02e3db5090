import Joinery.Text.Basic

/-
  This file defines the tokens of YAML text.

  Key definitions include:
    * `Token`
-/

namespace Joinery

namespace Yaml

/-
  A token. A key mark may stand before tokens that were
  found to be a key only when its colon was met. A scalar
  remembers whether it was written without quotes.
-/
inductive Token where
  | versionDirective
      (major minor : Nat)
  | tagDirective
      (handle shorthand : String)
  | otherDirective
  | documentStart
  | documentEnd
  | blockSequenceStart
  | blockMappingStart
  | blockEnd
  | flowSequenceStart
  | flowSequenceEnd
  | flowMappingStart
  | flowMappingEnd
  | flowEntry
  | blockEntry
  | key
  | value
  | alias
      (name : String)
  | anchor
      (name : String)
  | tag
      (handle : Option String)
      (suffix : String)
  | scalar
      (text : Text)
      (plain : Bool)
  | streamEnd
  deriving DecidableEq, Repr

end Yaml

end Joinery
