/-
  This file looks code points up in tables of ranges.

  Key definitions include:
    * `inRanges`
-/

namespace Joinery

namespace Text

/- Membership in a table of ranges, both ends included. -/
def inRanges
    (table : List (Nat × Nat))
    (n : Nat) : Bool :=
  table.any fun range => range.1 ≤ n && n ≤ range.2

end Text

end Joinery
