import Joinery.Decimal.Reading
import Joinery.Decimal.Rounded
import Joinery.Number.Arithmetic
import Joinery.Value.Order

/-
  This file fills the directives of a message with values.

  A directive is a percent sign, perhaps a name in
  parentheses, flags, a width, a number of places, and a
  letter that says how the value is written.

  Key definitions include:
    * `Directive`
    * `Filling`
    * `Message.fill`
    * `Message.text`
-/

namespace Joinery

namespace Message

------------------------------------------------------------
-- Directives
------------------------------------------------------------

/- How a value is written. -/
structure Directive where
  left : Bool := false
  plus : Bool := false
  blank : Bool := false
  alternate : Bool := false
  zero : Bool := false
  width : Nat := 0
  places : Option Nat := none

/- The spaces that fill so many places to the width of a directive. -/
def Directive.gap
    (d : Directive)
    (length : Nat) : List Char :=
  List.replicate (d.width - length) ' '

/- Fill a text with spaces to the width of a directive. -/
def Directive.pad
    (d : Directive)
    (t : Text) : Text :=
  let gap := Text.ofList (d.gap t.length)
  if d.left then t ++ gap else gap ++ t

/-
  Fill a number to the width of a directive, with zeros
  between its sign and its digits where that is asked for.
-/
def Directive.padNumber
    (d : Directive)
    (negative : Bool)
    (lead body : List Char) : List Char :=
  let sign :=
    if negative then ['-']
    else if d.plus then ['+']
    else if d.blank then [' ']
    else []
  let head := sign ++ lead
  let whole := head ++ body
  let gap := d.gap whole.length
  if d.left then whole ++ gap
  else if d.zero then head ++ gap.map (fun _ => '0') ++ body
  else gap ++ whole

------------------------------------------------------------
-- Integers
------------------------------------------------------------

/- The integer that a value stands for, its fraction cut off. -/
def integerOf
    (letter : Char)
    (v : Value) : Outcome Int :=
  match v.number? with
  | some (.int n) => .ok n
  | some (.ratio q) => .ok (q.num.tdiv q.den)
  | some (.float x) =>
      match Decimal.exactValue? x with
      | some q => .ok (q.num.tdiv q.den)
      | none =>
          if x.isNaN then fail .nanToInteger else fail .infinityToInteger
  | none =>
      fail
        (.messageArguments
          s!"%{letter} format: a real number is required, not {v.kind}")

/- Only an integer can be written in a base other than ten. -/
def wholeOf
    (letter : Char)
    (v : Value) : Outcome Int :=
  match v.number? with
  | some (.int n) => .ok n
  | _ =>
      fail
        (.messageArguments
          s!"%{letter} format: an integer is required, not {v.kind}")

/- An integer in a base. -/
def writeInteger
    (d : Directive)
    (base : Nat)
    (lead : List Char)
    (n : Int) : List Char :=
  let ds := Nat.toDigits base n.natAbs
  d.padNumber (n < 0) (if d.alternate then lead else [])
    (Decimal.padLeft (d.places.getD 0) ds)

/- An integer in base ten, if it can be written. -/
def writeDecimal
    (d : Directive)
    (n : Int) : Outcome (List Char) :=
  if Decimal.exceedsLimit n then fail .integerTooLong
  else .ok (writeInteger d 10 [] n)

------------------------------------------------------------
-- Doubles
------------------------------------------------------------

/- A mantissa with one leading digit, rounded, and its exponent. -/
structure Scaled where
  units : Nat
  exponent : Int

/- The greatest power of ten that is not above a positive number. -/
def leadingExponent
    (q : Rat) : Int :=
  let guess : Int :=
    ((Nat.log2 q.num.natAbs : Int) - Nat.log2 q.den) * 30103 / 100000
  let steps : List Int := [2, 1, 0, -1, -2]
  match steps.find? fun k => (10 : Rat) ^ (guess + k) ≤ q with
  | some k => guess + k
  | none => guess

/- A number with so many digits after the leading one. -/
def scaled
    (places : Nat)
    (q : Rat) : Scaled :=
  if q = 0 then ⟨0, 0⟩
  else
    let e := leadingExponent q
    let units :=
      Decimal.roundMagnitude .toEven (q * (10 : Rat) ^ (places - e))
    if units = Nat.pow 10 (places + 1) then
      ⟨Nat.pow 10 places, e + 1⟩
    else ⟨units, e⟩

/- Digits with a point at their end, if they have none but shall have. -/
def withPoint
    (alternate : Bool)
    (cs : List Char) : List Char :=
  if alternate && !cs.contains '.' then cs ++ ['.'] else cs

/- The text of a number with an exponent. -/
def scientific
    (mantissa : List Char)
    (exponent : Int) : List Char :=
  mantissa ++
    'e' :: Decimal.exponentText Decimal.Style.standard exponent

/- Drop the zeros at the end of a fraction, and then its point. -/
def trimZeros
    (cs : List Char) : List Char :=
  if cs.contains '.' then
    ((cs.reverse.dropWhile (· = '0')).dropWhile (· = '.')).reverse
  else cs

/- The shorter of the two forms of a number with so many digits. -/
def general
    (alternate : Bool)
    (places : Nat)
    (q : Rat) : List Char :=
  let count := max 1 places
  let s := scaled (count - 1) q
  let finish := if alternate then withPoint true else trimZeros
  if -4 ≤ s.exponent ∧ s.exponent < count then
    let digits := ((count : Int) - 1 - s.exponent).toNat
    finish (Decimal.fixedText .toEven digits false q)
  else
    scientific (finish (Decimal.pointed (count - 1) s.units)) s.exponent

/- The digits of a magnitude as a letter asks for them. -/
def magnitudeText
    (letter : Char)
    (alternate : Bool)
    (places : Nat)
    (q : Rat) : List Char :=
  match letter with
  | 'e' =>
      let s := scaled places q
      scientific (withPoint alternate (Decimal.pointed places s.units))
        s.exponent
  | 'g' => general alternate places q
  | _ =>
      withPoint alternate (Decimal.fixedText .toEven places false q)

/- A number as a double. -/
def writeDouble
    (d : Directive)
    (letter : Char)
    (v : Value) : Outcome (List Char) := do
  let x ← (← v.asNumber).toDouble
  let small := letter.toLower
  let body :=
    match Decimal.exactValue? x with
    | some q =>
        magnitudeText small d.alternate (d.places.getD 6)
          (if q < 0 then -q else q)
    | none => (if x.isNaN then "nan" else "inf").toList
  let cased := if letter = small then body else body.map Char.toUpper
  return d.padNumber (Decimal.isNegative x) [] cased

------------------------------------------------------------
-- Text
------------------------------------------------------------

/- A text, cut to the number of places, filled to the width. -/
def writeText
    (d : Directive)
    (t : Text) : Text :=
  d.pad
    (match d.places with
      | some n => .ofLetters (t.letters.take n)
      | none => t)

/- The telling form of a value, if it can be written. -/
def shownText
    (v : Value) : Outcome String :=
  if v.unwritable then fail .integerTooLong else .ok v.shown

/- The telling form of a value in ASCII. -/
def asciiText
    (v : Value) : Outcome String := do
  let s ← shownText v
  return String.ofList
    (s.toList.flatMap fun c =>
      if c.toNat < 0x80 then [c] else Text.codePointEscape c.toNat)

/- A single code point: a text of one, or a number. -/
def writeLetter
    (d : Directive)
    (v : Value) : Outcome Text :=
  let wrong : Outcome Text :=
    fail (.messageArguments "%c requires int or char")
  match v.text?, v.number? with
  | some t, _ => if t.length = 1 then .ok (d.pad t) else wrong
  | none, some (.int n) =>
      match Letter.ofCode? n.toNat with
      | some l =>
          if n < 0 then fail .characterBeyondUnicode
          else .ok (d.pad (.ofLetter l))
      | none => fail .characterBeyondUnicode
  | none, _ => wrong

/- A number as the letter of a directive asks for it. -/
def writeNumber
    (d : Directive)
    (letter : Char)
    (v : Value) : Outcome (List Char) :=
  match letter with
  | 'x' => (wholeOf letter v).map (writeInteger d 16 ['0', 'x'])
  | 'X' =>
      (wholeOf letter v).map fun n =>
        (writeInteger d 16 ['0', 'x'] n).map Char.toUpper
  | 'o' => (wholeOf letter v).map (writeInteger d 8 ['0', 'o'])
  | 'd' | 'i' | 'u' => do writeDecimal d (← integerOf letter v)
  | _ => writeDouble d letter v

/- The letters of directives for numbers. -/
def numberLetters : List Char :=
  "diuxXoeEfFgG".toList

/- A value as the letter at an index asks for it. -/
def write
    (d : Directive)
    (letter : Letter)
    (index : Nat)
    (v : Value) : Outcome Text :=
  match letter.toChar with
  | 's' => v.written.map (writeText d)
  | 'r' => (shownText v).map fun s => writeText d s
  | 'a' => (asciiText v).map fun s => writeText d s
  | 'c' => writeLetter d v
  | c =>
      if numberLetters.contains c then
        (writeNumber d c v).map Text.ofList
      else fail (.unsupportedDirective letter index)

------------------------------------------------------------
-- Filling
------------------------------------------------------------

/-
  The state of filling a message: what is left of it, the
  index reached, the values not yet used, and the mapping
  from which values are taken by name.
-/
structure Filling where
  rest : List Letter
  index : Nat := 0
  values : List Value
  mapping : Option Entries := none

/- A step of filling a message. -/
abbrev Fill :=
  StateT Filling Outcome

/- The next character, if there is one. -/
def nextChar? : Fill (Option Char) := do
  return (← get).rest.head?.map Letter.toChar

/- Go on after so many characters. -/
def skip
    (n : Nat) : Fill Unit :=
  modify fun s => { s with rest := s.rest.drop n, index := s.index + n }

/- The next value that has not been used. -/
def nextValue : Fill Value := do
  let s ← get
  match s.values with
  | v :: rest =>
      set { s with values := rest }
      return v
  | [] =>
      throw
        (.messageArguments "not enough arguments for format string")

/- The length of a name up to its closing parenthesis. -/
def nameLength?
    (depth : Nat) : List Letter → Option Nat
  | [] => none
  | l :: rest =>
      if l = .char ')' then
        if depth = 0 then some 0
        else (nameLength? (depth - 1) rest).map (· + 1)
      else if l = .char '(' then
        (nameLength? (depth + 1) rest).map (· + 1)
      else (nameLength? depth rest).map (· + 1)

/- A name in parentheses makes its value the only one left. -/
def takeName : Fill Unit := do
  let s ← get
  match s.rest, s.mapping with
  | .char '(' :: rest, some entries =>
      match nameLength? 0 rest with
      | none => throw .incompleteKey
      | some n =>
          let name := Text.ofLetters (rest.take n)
          match entries.get? name with
          | some v =>
              skip (n + 2)
              modify fun s => { s with values := [v] }
          | none => throw (.missingName name)
  | .char '(' :: _, none =>
      throw (.messageArguments "format requires a mapping")
  | _, _ => return

/- A directive with one more flag. -/
def Directive.flag?
    (d : Directive) : Char → Option Directive
  | '-' => some { d with left := true }
  | '+' => some { d with plus := true }
  | ' ' => some { d with blank := true }
  | '#' => some { d with alternate := true }
  | '0' => some { d with zero := true }
  | _ => none

/- All flags at the front of a text. -/
def flagsOf
    (d : Directive) : List Char → Directive
  | [] => d
  | c :: rest =>
      match d.flag? c with
      | some more => flagsOf more rest
      | none => d

/- Take the flags of a directive. -/
def takeFlags : Fill Directive := do
  let flags :=
    ((← get).rest.map Letter.toChar).takeWhile "-+ #0".toList.contains
  skip flags.length
  return flagsOf { } flags

/-
  What may be asked of a directive: a number below a limit,
  and the fault of one that is written and is not.
-/
structure Size where
  limit : Nat
  tooBig : Fault

/- The widths that can be asked for. -/
def Size.width : Size :=
  ⟨0x8000000000000000, .widthTooBig⟩

/- The numbers of places that can be asked for. -/
def Size.places : Size :=
  ⟨0x80000000, .placesTooMany⟩

/- A number that is written, or that a star takes from the values. -/
def takeNumber?
    (size : Size) : Fill (Option Int) := do
  match ← nextChar? with
  | some '*' =>
      skip 1
      match ← nextValue with
      | .int n =>
          if n < -size.limit ∨ size.limit ≤ n then
            throw .sizeBeyondWord
          return some n
      | .bool b => return some (if b then 1 else 0)
      | _ => throw (.messageArguments "* wants int")
  | _ =>
      let ds :=
        ((← get).rest.map Letter.toChar).takeWhile Decimal.isAsciiDigit
      skip ds.length
      let n := ds.foldl (fun n c => 10 * n + (c.toNat - 48)) 0
      if size.limit ≤ n then throw size.tooBig
      return if ds = [] then none else some (n : Int)

/- The width of a directive; one below zero aligns to the left. -/
def takeWidth
    (d : Directive) : Fill Directive := do
  match ← takeNumber? Size.width with
  | some n =>
      return { d with width := n.natAbs, left := d.left || n < 0 }
  | none => return d

/- The number of places after a point. -/
def takePlaces
    (d : Directive) : Fill Directive := do
  if (← nextChar?) = some '.' then
    skip 1
    let n ← takeNumber? Size.places
    return { d with places := some (n.getD 0).toNat }
  else return d

/- A directive that is to be replaced by a value. -/
def takeValue : Fill Text := do
  takeName
  let d ← takePlaces (← takeWidth (← takeFlags))
  let size ← nextChar?
  if size = some 'h' ∨ size = some 'l' ∨ size = some 'L' then skip 1
  match (← get).rest with
  | [] => throw .incompleteDirective
  | letter :: _ =>
      let index := (← get).index
      let v ← nextValue
      skip 1
      write d letter index v

/-
  What follows a percent sign: another one, which is written
  once, or a directive.
-/
def takeDirective : Fill Text := do
  if (← nextChar?) = some '%' then
    skip 1
    return "%"
  else takeValue

/-
  Fill the directives of what is left of a message. What
  stands between them is taken as it is.
-/
def fill : Nat → Fill (List Text)
  | 0 => return []
  | fuel + 1 => do
      let plain := (← get).rest.takeWhile (· != .char '%')
      skip plain.length
      if (← get).rest.isEmpty then return [.ofLetters plain]
      else
        skip 1
        let filled ← takeDirective
        return .ofLetters plain :: filled :: (← fill fuel)

/-
  A message with its values in place. Without values it is
  left as it is. A single mapping that is not empty gives
  its values by name; otherwise all values must be used.
-/
def text
    (message : Text)
    (args : List Value) : Outcome Text :=
  let letters := message.letters
  match args with
  | [] => .ok message
  | [.dict (entry :: entries)] => do
      let all := entry :: entries
      let (filled, _) ← (fill (letters.length + 1)).run
        { rest := letters, values := [.dict all], mapping := some all }
      return Text.join filled
  | _ => do
      let (filled, after) ← (fill (letters.length + 1)).run
        { rest := letters, values := args }
      if !after.values.isEmpty then
        fail
          (.messageArguments
            "not all arguments converted during string formatting")
      return Text.join filled

end Message

end Joinery
