import Joinery.Decimal.Reading
import Joinery.Text.Hex
import Joinery.Value.Equal

/-
  This file defines how lines for machines are read: a JSON
  object whose values are scalars, with the names that it
  binds.

  Two escapes that name the halves of a pair stand for one
  character. Of two values under one name, the last one
  holds.

  Key definitions include:
    * `Json.paired`
    * `Json.string?`
    * `Json.number?`
    * `Json.scalar?`
    * `Json.object?`
-/

namespace Joinery

namespace Json

------------------------------------------------------------
-- Blanks
------------------------------------------------------------

/- The blanks between the parts of an object. -/
def isBlank
    (c : Char) : Bool :=
  c = ' ' || c = '\t' || c = '\n' || c = '\r'

/- What follows the blanks. -/
def skip
    (cs : List Char) : List Char :=
  cs.dropWhile isBlank

------------------------------------------------------------
-- Strings
------------------------------------------------------------

/- The characters that the short escapes stand for. -/
def shortEscapes : List (Char × Char) :=
  [ ('\x22', '\x22'), ('\\', '\\'), ('/', '/'), ('b', '\x08'),
    ('f', '\x0c'), ('n', '\n'), ('r', '\r'), ('t', '\t') ]

/- The unit of sixteen bits that four digits stand for. -/
def unit? : List Char → Option (Nat × List Char)
  | a :: b :: c :: d :: rest => do
      let n ← Text.hexValue? a
      let m ← Text.hexValue? b
      let k ← Text.hexValue? c
      let j ← Text.hexValue? d
      return (16 * (16 * (16 * n + m) + k) + j, rest)
  | _ => none

/- One code point of a string: an escape, or a character as it is. -/
def piece? : List Char → Option (Letter × List Char)
  | '\\' :: 'u' :: rest =>
      (unit? rest).bind fun r =>
        (Letter.ofCode? r.1).map fun l => (l, r.2)
  | '\\' :: c :: rest =>
      (shortEscapes.lookup c).map fun d => (.char d, rest)
  | c :: rest =>
      if c = '\\' ∨ c.toNat < 0x20 then none else some (.char c, rest)
  | [] => none

/-
  The code points up to the closing quote, and what follows
  it. As many pieces are read as there are tries.
-/
def body? : Nat → List Char → Option (List Letter × List Char)
  | 0, _ => none
  | tries + 1, cs =>
      if cs.head? = some '\x22' then some ([], cs.tail)
      else
        (piece? cs).bind fun r =>
          (body? tries r.2).map fun more => (r.1 :: more.1, more.2)

/- The character that two halves stand for, if they are a pair. -/
def pairOf?
    (high low : Surrogate) : Option Char :=
  if high.offset.val < 0x400 ∧ 0x400 ≤ low.offset.val then
    some
      (Char.ofNat
        (0x10000 + high.offset.val * 0x400 + (low.offset.val - 0x400)))
  else none

/- Code points with the halves of pairs joined. -/
def paired : List Letter → List Letter
  | .surrogate high :: .surrogate low :: rest =>
      match pairOf? high low with
      | some c => .char c :: paired rest
      | none => .surrogate high :: paired (.surrogate low :: rest)
  | l :: rest => l :: paired rest
  | [] => []

/- The text of a string behind its opening quote. -/
def string?
    (cs : List Char) : Option (Text × List Char) :=
  (body? (cs.length + 1) cs).map fun r =>
    (Text.ofLetters (paired r.1), r.2)

------------------------------------------------------------
-- Numbers And Words
------------------------------------------------------------

/-
  A number. The whole part has no superfluous zero. Without
  a fraction and an exponent it is an integer, and then it
  must not be too long.
-/
def number?
    (cs : List Char) : Option Value :=
  let negative := cs.head? == some '-'
  let rest := if negative then cs.tail else cs
  let whole := rest.takeWhile Decimal.isAsciiDigit
  let tail := rest.dropWhile Decimal.isAsciiDigit
  let double :=
    (Decimal.ofNumeral? cs).map fun d => Value.float (Decimal.toDouble d)
  if whole = [] ∨ (whole.head? = some '0' ∧ whole ≠ ['0']) then none
  else
    match tail with
    | [] =>
        if Decimal.digitLimit < whole.length then none
        else
          let n : Int := Decimal.naturalOf whole
          some (.int (if negative then -n else n))
    | '.' :: after =>
        if after.head?.any Decimal.isAsciiDigit then double else none
    | _ => double

/- The words for values. -/
def words : List (String × Value) :=
  [ ("null", .null), ("true", .bool true), ("false", .bool false),
    ("NaN", .float (0.0 / 0.0)), ("Infinity", .float (1.0 / 0.0)),
    ("-Infinity", .float (-(1.0 / 0.0))) ]

/- A number, or a word. -/
def word?
    (cs : List Char) : Option Value :=
  (number? cs).or (words.lookup (String.ofList cs))

/- The characters of words and numbers. -/
def isWordChar
    (c : Char) : Bool :=
  c.isAlphanum || c = '+' || c = '-' || c = '.'

/- A value, and what follows it. -/
def scalar? : List Char → Option (Value × List Char)
  | '\x22' :: rest =>
      (string? rest).map fun r => (.text r.1, r.2)
  | cs =>
      (word? (cs.takeWhile isWordChar)).map fun v =>
        (v, cs.dropWhile isWordChar)

------------------------------------------------------------
-- Objects
------------------------------------------------------------

/- A name with its value, and what follows them. -/
def member?
    (cs : List Char) : Option ((Text × Value) × List Char) :=
  match skip cs with
  | '\x22' :: rest =>
      (string? rest).bind fun r =>
        match skip r.2 with
        | ':' :: rest =>
            (scalar? (skip rest)).map fun v =>
              ((r.1, v.1), skip v.2)
        | _ => none
  | _ => none

/-
  The names and values up to the end of an object, and what
  follows it. As many are read as there are tries.
-/
def members? :
    Nat → Named → List Char → Option (Named × List Char)
  | 0, _, _ => none
  | tries + 1, named, cs =>
      (member? cs).bind fun r =>
        match r.2 with
        | ',' :: rest => members? tries (named.bind r.1.1 r.1.2) rest
        | '\x7d' :: rest => some (named.bind r.1.1 r.1.2, rest)
        | _ => none

/- An object, with nothing but blanks around it. -/
def object?
    (cs : List Char) : Option Named :=
  match skip cs with
  | '\x7b' :: rest =>
      match skip rest with
      | '\x7d' :: after => if skip after = [] then some [] else none
      | cs =>
          (members? cs.length [] cs).bind fun r =>
            if skip r.2 = [] then some r.1 else none
  | _ => none

end Json

end Joinery
