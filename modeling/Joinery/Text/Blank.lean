/-
  This file knows the blank characters: the controls that
  separate lines, fields and records, and the spaces of all
  widths.

  Key definitions include:
    * `isBlank`
    * `isNumeralBlank`
    * `strip`
-/

namespace Joinery

namespace Text

/- A character that separates words. -/
def isBlank
    (c : Char) : Bool :=
  let n := c.toNat
  (9 ≤ n && n ≤ 13) || (0x1c ≤ n && n ≤ 0x20) ||
    n == 0x85 || n == 0xa0 || n == 0x1680 ||
    (0x2000 ≤ n && n ≤ 0x200a) ||
    n == 0x2028 || n == 0x2029 || n == 0x202f ||
    n == 0x205f || n == 0x3000

/-
  A character that may surround a numeral. The four
  separator controls are blank elsewhere but not here.
-/
def isNumeralBlank
    (c : Char) : Bool :=
  isBlank c && !(0x1c ≤ c.toNat && c.toNat ≤ 0x1f)

/- Drop the characters of a class at both ends. -/
def strip
    (drop : Char → Bool)
    (cs : List Char) : List Char :=
  ((cs.dropWhile drop).reverse.dropWhile drop).reverse

end Text

end Joinery
