import Joinery.Decimal.Shortest

/-
  This file writes doubles as text: the shortest decimal,
  positional for ordinary magnitudes and with an exponent
  for the very large and the very small.

  Key definitions include:
    * `Style`
    * `Style.standard`
    * `written`
    * `doubleText`
    * `integerText`
-/

namespace Joinery

namespace Decimal

/- Zeros in a row. -/
def zeros
    (n : Nat) : List Char :=
  List.replicate n '0'

/- Widen a run of digits with zeros on the left. -/
def padLeft
    (width : Nat)
    (cs : List Char) : List Char :=
  zeros (width - cs.length) ++ cs

/- Integers are written in full, with a minus sign below zero. -/
def integerText
    (n : Int) : String :=
  toString n

------------------------------------------------------------
-- Style
------------------------------------------------------------

/-
  How doubles are laid out: the decimal exponents that are
  written positionally, the least width of the exponent of
  the others, and the names of the values without digits.
-/
structure Style where
  leastPositional : Int
  mostPositional : Int
  exponentWidth : Nat
  nanText : String
  infinityText : String

/-
  The layout used everywhere in this library: positional
  from `0.0001` up to sixteen digits, exponents of at least
  two digits.
-/
def Style.standard : Style :=
  { leastPositional := -4
    mostPositional := 15
    exponentWidth := 2
    nanText := "nan"
    infinityText := "inf" }

------------------------------------------------------------
-- Text Of Doubles
------------------------------------------------------------

/-
  Digits with the point after the first `point` of them. A
  number without a fraction is given the fraction `.0`.
-/
def positional
    (ds : List Char)
    (point : Int) : List Char :=
  if point ≤ 0 then
    '0' :: '.' :: (zeros (-point).toNat ++ ds)
  else
    let n := point.toNat
    if ds.length ≤ n then
      ds ++ zeros (n - ds.length) ++ ['.', '0']
    else ds.take n ++ '.' :: ds.drop n

/- The text of an exponent: always a sign, then digits. -/
def exponentText
    (style : Style)
    (e : Int) : List Char :=
  (if e < 0 then '-' else '+') ::
    padLeft style.exponentWidth (digits e.natAbs)

/- One leading digit, the remaining ones after a point, and an exponent. -/
def scientific
    (style : Style)
    (ds : List Char)
    (e : Int) : List Char :=
  match ds with
  | [] => []
  | [d] => d :: 'e' :: exponentText style e
  | d :: rest => d :: '.' :: (rest ++ 'e' :: exponentText style e)

/- The text of a decimal whose coefficient has no trailing zeros. -/
def written
    (style : Style)
    (d : Decimal) : List Char :=
  let ds := digits d.coefficient
  let leading : Int :=
    if d.coefficient = 0 then 0
    else d.exponent + ds.length - 1
  let body :=
    if style.leastPositional ≤ leading ∧ leading ≤ style.mostPositional then
      positional ds (leading + 1)
    else scientific style ds leading
  if d.negative then '-' :: body else body

/- The text of a double: it reads back as the same double. -/
def doubleText
    (x : Float) : String :=
  let style := Style.standard
  match Binary.ofFloat x with
  | .nan => style.nanText
  | .infinite true => "-" ++ style.infinityText
  | .infinite false => style.infinityText
  | .finite negative m e =>
      String.ofList (written style (shortest negative m e))

end Decimal

end Joinery
