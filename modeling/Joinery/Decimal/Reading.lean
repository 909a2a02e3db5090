import Joinery.Decimal.Binary
import Joinery.Text.Blank
import Joinery.Text.DecimalDigit

/-
  This file reads numerals: integers, decimals and doubles
  written with the decimal digits of any script.

  Key definitions include:
    * `naturalOf`
    * `unsigned?`
    * `ofNumeral?`
    * `readDouble?`
    * `Reading.ofChars?`
-/

namespace Joinery

namespace Decimal

------------------------------------------------------------
-- Digits
------------------------------------------------------------

/- An ASCII digit. -/
def isAsciiDigit
    (c : Char) : Bool :=
  '0' ≤ c && c ≤ '9'

/- The number that a run of digits denotes. -/
def naturalOf
    (ds : List Char) : Nat :=
  ds.foldl (fun n c => 10 * n + (Text.digitValue? c).getD 0) 0

/- A sign at the front, if there is one, and what follows. -/
def splitSign : List Char → Bool × List Char
  | '-' :: rest => (true, rest)
  | '+' :: rest => (false, rest)
  | cs => (false, cs)

------------------------------------------------------------
-- Decimals
------------------------------------------------------------

/-
  An exponent: nothing, or a letter, a sign that may be
  missing, and digits.
-/
def exponentOf? : List Char → Option Int
  | [] => some 0
  | c :: rest =>
      let (negative, ds) := splitSign rest
      if (c = 'e' ∨ c = 'E') ∧ ds ≠ [] ∧ ds.all isAsciiDigit then
        let n : Int := naturalOf ds
        some (if negative then -n else n)
      else none

/-
  A numeral without a sign: digits around a point that may
  be missing, one digit at least, and an exponent. The
  coefficient and the exponent of the decimal it denotes.
-/
def unsigned?
    (cs : List Char) : Option (Nat × Int) :=
  let whole := cs.takeWhile isAsciiDigit
  let rest := cs.dropWhile isAsciiDigit
  let fraction :=
    match rest with
    | '.' :: after => after.takeWhile isAsciiDigit
    | _ => []
  let tail :=
    match rest with
    | '.' :: after => after.dropWhile isAsciiDigit
    | _ => rest
  if whole ++ fraction = [] then none
  else
    (exponentOf? tail).map fun e =>
      (naturalOf (whole ++ fraction), e - fraction.length)

/- The decimal that a numeral denotes. -/
def ofNumeral?
    (cs : List Char) : Option Decimal :=
  let (negative, rest) := splitSign cs
  (unsigned? rest).map fun (c, e) => ⟨negative, c, e⟩

------------------------------------------------------------
-- Doubles
------------------------------------------------------------

/- The words for a double without digits, in small letters. -/
def wordValue?
    (word : String) : Option Float :=
  if word = "nan" then some (0.0 / 0.0)
  else if word = "inf" ∨ word = "infinity" then some (1.0 / 0.0)
  else none

/- A double without digits, with its sign. -/
def ofWord?
    (cs : List Char) : Option Float :=
  let (negative, rest) := splitSign cs
  (wordValue? (String.ofList (rest.map Char.toLower))).map fun x =>
    if negative then -x else x

/-
  Drop the underscores of a numeral. Each one must have a
  digit on both sides.
-/
def dropUnderscores? : List Char → Option (List Char)
  | [] => some []
  | c :: '_' :: d :: rest =>
      if isAsciiDigit c && isAsciiDigit d then
        (dropUnderscores? (d :: rest)).map (c :: ·)
      else none
  | c :: rest =>
      if c = '_' then none else (dropUnderscores? rest).map (c :: ·)

/- The ASCII form of a character of a numeral. -/
def asciiForm
    (c : Char) : Char :=
  if c.toNat < 0x80 then c
  else if Text.isBlank c then ' '
  else
    match Text.digitValue? c with
    | some n => Char.ofNat ('0'.toNat + n)
    | none => c

/-
  The double that characters denote: a numeral or a word,
  with blanks around it.
-/
def readDouble?
    (cs : List Char) : Option Float := do
  let bare := Text.strip Text.isNumeralBlank (cs.map asciiForm)
  let plain ← dropUnderscores? bare
  match ofNumeral? plain with
  | some d => some (toDouble d)
  | none => ofWord? plain

------------------------------------------------------------
-- Decimals And What Is No Number
------------------------------------------------------------

/- The exponents that a decimal may have in scientific form. -/
def largestExponent : Int := 999999999999999999

/- The least exponent of the last digit of a decimal. -/
def leastExponent : Int := -1999999999999999997

/- A decimal is not too large, and none of its digits is too small. -/
def isInRange
    (d : Decimal) : Bool :=
  leastExponent ≤ d.exponent &&
    d.exponent + digitCount d.coefficient ≤ largestExponent + 1

/-
  What a text denotes where decimals are asked for. Behind
  the word for what is no number, there may be digits.
-/
inductive Reading where
  | finite
      (d : Decimal)
  | nan
      (negative : Bool)
      (payload : List Char)
  deriving DecidableEq, Repr

namespace Reading

/- The word for what is no number, with its digits, less their zeros. -/
def ofNan?
    (cs : List Char) : Option Reading :=
  let (negative, rest) := splitSign cs
  let digits := rest.drop 3
  if (rest.take 3).map Char.toLower = ['n', 'a', 'n'] ∧
      digits.all isAsciiDigit then
    some (.nan negative (digits.dropWhile (· = '0')))
  else none

/-
  What characters denote, with blanks around them, and with
  underscores anywhere. Infinities are not asked for.
-/
def ofChars?
    (cs : List Char) : Option Reading :=
  let bare := Text.strip Text.isNumeralBlank (cs.map asciiForm)
  let plain := bare.filter (· ≠ '_')
  match ofNumeral? plain with
  | some d => if d.isInRange then some (.finite d) else none
  | none => ofNan? plain

end Reading

end Decimal

end Joinery
