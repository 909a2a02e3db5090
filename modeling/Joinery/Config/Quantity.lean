import Joinery.Decimal.Reading
import Joinery.Measure

/-
  This file reads the measures of a job file: bare numbers,
  amounts with a unit in text, and mappings of an amount and
  a unit.

  Key definitions include:
    * `QuantityText`
    * `QuantityText.split?`
    * `QuantityText.value`
    * `readUnit`
    * `readMeasure`
-/

namespace Joinery

------------------------------------------------------------
-- Quantities In Text
------------------------------------------------------------

/- The two parts of a quantity in text. -/
structure QuantityText where
  amount : List Char
  unit : List Char
  deriving DecidableEq, Repr

namespace QuantityText

/- An ASCII letter. -/
def isLetter
    (c : Char) : Bool :=
  ('a' ≤ c && c ≤ 'z') || ('A' ≤ c && c ≤ 'Z')

/- A sign at the front, kept as text, and what follows. -/
def takeSign : List Char → List Char × List Char
  | '-' :: rest => (['-'], rest)
  | '+' :: rest => (['+'], rest)
  | cs => ([], cs)

/-
  The digits at the front, with a point among or after them,
  or before them; and what follows.
-/
def takeMantissa?
    (cs : List Char) : Option (List Char × List Char) :=
  let whole := cs.takeWhile Text.isDigit
  match cs.dropWhile Text.isDigit with
  | '.' :: after =>
      let fraction := after.takeWhile Text.isDigit
      if whole ++ fraction = [] then none
      else
        some (whole ++ '.' :: fraction, after.dropWhile Text.isDigit)
  | rest => if whole = [] then none else some (whole, rest)

/-
  An exponent at the front, and what follows. A letter that
  no digits follow is not an exponent but begins the unit.
-/
def takeExponent : List Char → List Char × List Char
  | [] => ([], [])
  | c :: rest =>
      let (sign, after) := takeSign rest
      let ds := after.takeWhile Text.isDigit
      if (c = 'e' ∨ c = 'E') ∧ ds ≠ [] then
        (c :: (sign ++ ds), after.dropWhile Text.isDigit)
      else ([], c :: rest)

/-
  Split the text of a quantity: blanks, a signed numeral,
  blanks, letters, blanks.
-/
def split?
    (cs : List Char) : Option QuantityText := do
  let (sign, afterSign) := takeSign (cs.dropWhile Text.isBlank)
  let (mantissa, afterMantissa) ← takeMantissa? afterSign
  let (exponent, afterExponent) := takeExponent afterMantissa
  let tail := afterExponent.dropWhile Text.isBlank
  let letters := tail.takeWhile isLetter
  let rest := tail.dropWhile isLetter
  if letters ≠ [] ∧ rest.all Text.isBlank then
    some ⟨sign ++ mantissa ++ exponent, letters⟩
  else none

/- The amount is written with a sign and digits only. -/
def isInteger
    (q : QuantityText) : Bool :=
  (takeSign q.amount).2.all Text.isDigit

/-
  The amount as a value: an exact integer where only a sign
  and digits are written and a double can hold the size,
  otherwise a double.
-/
def value
    (q : QuantityText) : Outcome Value :=
  match Decimal.readDouble? q.amount with
  | none => fail (.badNumeral (.text (.ofList q.amount)))
  | some x =>
      if q.isInteger && Decimal.isFinite x then
        (Number.readInteger q.amount).map .int
      else .ok (.float x)

end QuantityText

------------------------------------------------------------
-- Measures
------------------------------------------------------------

/- The unit that a text names, in any case and with blanks around it. -/
def unitNamed?
    (t : Text) : Option LengthUnit :=
  let cs := Text.strip Text.isBlank t.chars
  LengthUnit.ofSymbol? (String.ofList (cs.map Char.toLower))

/- The unit of a named measure. -/
def readUnit
    (name : Text)
    (raw : Value) : Outcome LengthUnit :=
  match unitNamed? raw.plain with
  | some u => .ok u
  | none => fail (.config (.unknownUnit name raw))

/- The measure that a text gives for a name. -/
def readQuantityText
    (name : Text)
    (raw : Value)
    (text : Text) : Outcome Value :=
  match QuantityText.split? text.chars with
  | none => fail (.config (.malformedQuantity name raw))
  | some parts => do
      let amount ← parts.value
      let u ← readUnit name (.text (.ofList parts.unit))
      return .quantity (.unit u) amount

/- The measure that a mapping gives for a name. -/
def readQuantityMapping
    (name : Text)
    (raw : Value)
    (entries : Entries) : Outcome Value :=
  match entries.get? "amount", entries.get? "unit" with
  | some amount, some unit =>
      match amount with
      | .int _ | .float _ => do
          return .quantity (.unit (← readUnit name unit)) amount
      | _ => fail (.config (.amountNotNumber name amount))
  | _, _ => fail (.config (.incompleteQuantity name raw))

/- The measure that a job file gives for a name. -/
def readMeasure
    (name : Text)
    (raw : Value) : Outcome Value :=
  match raw.opened with
  | .int _ | .float _ => .ok raw
  | .dict entries => readQuantityMapping name raw entries
  | .text s => readQuantityText name raw s
  | .unit u => readQuantityText name raw u.symbol
  | _ => fail (.config (.notQuantity name raw))

end Joinery
