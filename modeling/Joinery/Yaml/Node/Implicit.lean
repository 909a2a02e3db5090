import Joinery.Text.Hex
import Joinery.Yaml.Node.Basic

/-
  This file tells what a plain scalar stands for by the way
  it is written.

  Key definitions include:
    * `Timestamp`
    * `Timestamp.parse?`
    * `isFloatText`
    * `isIntText`
    * `Tag.ofPlain`
-/

namespace Joinery

namespace Yaml

------------------------------------------------------------
-- Words
------------------------------------------------------------

/- The words that say true or false, in small letters. -/
def truthWords : List (String × Bool) :=
  [ ("yes", true), ("no", false), ("true", true), ("false", false),
    ("on", true), ("off", false) ]

/- A word in small letters, in capitals, or with one capital. -/
def casings
    (word : String) : List (List Char) :=
  match word.toList with
  | [] => [[]]
  | c :: rest =>
      [ c :: rest, c.toUpper :: rest,
        (c :: rest).map Char.toUpper ]

/- A truth word in one of the three casings. -/
def isBoolText
    (cs : List Char) : Bool :=
  truthWords.any fun word => (casings word.1).contains cs

/- Nothing, a tilde, or the word for nothing. -/
def isNullText
    (cs : List Char) : Bool :=
  cs == [] || cs == ['~'] || (casings "null").contains cs

------------------------------------------------------------
-- Numbers
------------------------------------------------------------

/- A decimal digit. -/
def isDigit
    (c : Char) : Bool :=
  '0' ≤ c && c ≤ '9'

/- A decimal digit or a low line between digits. -/
def isSpacedDigit
    (c : Char) : Bool :=
  isDigit c || c == '_'

/- What follows a sign, if there is one. -/
def afterSign : List Char → List Char
  | '-' :: rest => rest
  | '+' :: rest => rest
  | cs => cs

/- A group of base sixty: one or two digits, below sixty. -/
def isSixtieth
    (cs : List Char) : Bool :=
  match cs with
  | [c] => isDigit c
  | [c, d] => '0' ≤ c && c ≤ '5' && isDigit d
  | _ => false

/- The parts of a text between colons. -/
def colonParts : List Char → List (List Char)
  | [] => [[]]
  | ':' :: rest => [] :: colonParts rest
  | c :: rest =>
      match colonParts rest with
      | first :: others => (c :: first) :: others
      | [] => [[c]]

/- A nonempty text of characters of a class. -/
def allOf
    (p : Char → Bool)
    (cs : List Char) : Bool :=
  !cs.isEmpty && cs.all p

/- A decimal number without a leading zero. -/
def isPlainDecimal
    (cs : List Char) : Bool :=
  match cs with
  | c :: rest => '1' ≤ c && c ≤ '9' && rest.all isSpacedDigit
  | [] => false

/- A number in base sixty. -/
def isSexagesimal
    (cs : List Char) : Bool :=
  match colonParts cs with
  | first :: second :: others =>
      isPlainDecimal first && (second :: others).all isSixtieth
  | _ => false

/- An octal digit or a low line. -/
def isOctalDigit
    (c : Char) : Bool :=
  ('0' ≤ c && c ≤ '7') || c == '_'

/- A binary digit or a low line. -/
def isBinaryDigit
    (c : Char) : Bool :=
  c == '0' || c == '1' || c == '_'

/- A hexadecimal digit or a low line. -/
def isHexDigit
    (c : Char) : Bool :=
  (Text.hexValue? c).isSome || c == '_'

/-
  An integer: binary, octal, decimal, hexadecimal, or in
  base sixty.
-/
def isIntText
    (cs : List Char) : Bool :=
  let body := afterSign cs
  body == ['0'] || isPlainDecimal body || isSexagesimal body ||
    (match body with
      | '0' :: 'b' :: rest => allOf isBinaryDigit rest
      | '0' :: 'x' :: rest => allOf isHexDigit rest
      | '0' :: rest => allOf isOctalDigit rest
      | _ => false)

/- An exponent, which needs a sign, or nothing. -/
def isExponentText
    (cs : List Char) : Bool :=
  match cs with
  | [] => true
  | e :: sign :: ds =>
      (e == 'e' || e == 'E') && (sign == '-' || sign == '+') &&
        allOf isDigit ds
  | _ => false

/- Digits, a point, and what may follow. -/
def isPointedText
    (cs : List Char) : Bool :=
  match cs with
  | c :: rest =>
      isDigit c &&
        (match rest.dropWhile isSpacedDigit with
          | '.' :: after => isExponentText (after.dropWhile isSpacedDigit)
          | _ => false)
  | [] => false

/- A point at the front, digits, and what may follow. -/
def isFractionText
    (cs : List Char) : Bool :=
  match cs with
  | '.' :: c :: rest =>
      isDigit c && isExponentText (rest.dropWhile isSpacedDigit)
  | _ => false

/- The last group of a double in base sixty: a sixtieth, a point, digits. -/
def isLastSixtieth
    (cs : List Char) : Bool :=
  match cs.dropWhile isDigit with
  | '.' :: after =>
      isSixtieth (cs.takeWhile isDigit) && after.all isSpacedDigit
  | _ => false

/- A double in base sixty. -/
def isSexagesimalFloat
    (cs : List Char) : Bool :=
  match colonParts cs with
  | (c :: first) :: groups =>
      isDigit c && first.all isSpacedDigit &&
        (match groups.reverse with
          | last :: middle =>
              isLastSixtieth last && middle.all isSixtieth
          | [] => false)
  | _ => false

/- The words for doubles without digits, after their point. -/
def isInfinityText
    (cs : List Char) : Bool :=
  match cs with
  | '.' :: rest => (casings "inf").contains rest
  | _ => false

/- The words for no number, after their point. -/
def isNanText
    (cs : List Char) : Bool :=
  [".nan", ".NaN", ".NAN"].any fun word => word.toList == cs

/-
  A double. It needs a point, and its exponent a sign; one
  that begins with the point has no sign of its own.
-/
def isFloatText
    (cs : List Char) : Bool :=
  let body := afterSign cs
  isPointedText body || isFractionText cs || isSexagesimalFloat body ||
    isInfinityText body || isNanText cs

------------------------------------------------------------
-- Timestamps
------------------------------------------------------------

/- The parts of a timestamp, as they are written. -/
structure Timestamp where
  year : List Char
  month : List Char
  day : List Char
  time : Option (List Char × List Char × List Char)
  fraction : List Char
  utc : Bool
  offset : Option (Bool × List Char × List Char)

namespace Timestamp

/- The digits at the front, at least and at most so many. -/
def takeDigits?
    (least most : Nat)
    (cs : List Char) : Option (List Char × List Char) :=
  let ds := (cs.take most).takeWhile isDigit
  if least ≤ ds.length then some (ds, cs.drop ds.length) else none

/- A character that must come next. -/
def expect?
    (c : Char) : List Char → Option (List Char)
  | d :: rest => if c = d then some rest else none
  | [] => none

/- A space or a tab. -/
def isGap
    (c : Char) : Bool :=
  c == ' ' || c == '\t'

/- The offset at the end: hours, and minutes after a colon. -/
def offset?
    (negative : Bool)
    (cs : List Char) : Option (Bool × List Char × List Char) := do
  let (hours, rest) ← takeDigits? 1 2 cs
  match rest with
  | [] => some (negative, hours, [])
  | ':' :: after =>
      let (minutes, rest) ← takeDigits? 2 2 after
      if rest = [] then some (negative, hours, minutes) else none
  | _ => none

/- The zone at the end of a timestamp, after blanks. -/
def zone?
    (t : Timestamp)
    (cs : List Char) : Option Timestamp :=
  match cs.dropWhile isGap with
  | [] => if cs = [] then some t else none
  | ['Z'] => some { t with utc := true }
  | '+' :: rest =>
      (offset? false rest).map fun o => { t with offset := some o }
  | '-' :: rest =>
      (offset? true rest).map fun o => { t with offset := some o }
  | _ => none

/- What separates the day from the time of day. -/
def afterDay?
    (cs : List Char) : Option (List Char) :=
  match cs with
  | 'T' :: rest => some rest
  | 't' :: rest => some rest
  | c :: _ => if isGap c then some (cs.dropWhile isGap) else none
  | [] => none

/- The time of day, a fraction, and a zone. -/
def time?
    (t : Timestamp)
    (cs : List Char) : Option Timestamp := do
  let (hour, rest) ← takeDigits? 1 2 (← afterDay? cs)
  let (minute, rest) ← takeDigits? 2 2 (← expect? ':' rest)
  let (second, rest) ← takeDigits? 2 2 (← expect? ':' rest)
  let timed := { t with time := some (hour, minute, second) }
  match rest with
  | '.' :: after =>
      zone? { timed with fraction := after.takeWhile isDigit }
        (after.dropWhile isDigit)
  | _ => zone? timed rest

/- The parts of a text that is a timestamp. -/
def parse?
    (cs : List Char) : Option Timestamp := do
  let (year, rest) ← takeDigits? 4 4 cs
  let (month, rest) ← takeDigits? 1 2 (← expect? '-' rest)
  let (day, rest) ← takeDigits? 1 2 (← expect? '-' rest)
  let t : Timestamp := ⟨year, month, day, none, [], false, none⟩
  if rest = [] then some t else time? t rest

/-
  A plain scalar is taken for a day only when month and day
  have two digits.
-/
def isPlain
    (cs : List Char) : Bool :=
  match parse? cs with
  | some t =>
      t.time.isSome || (t.month.length = 2 && t.day.length = 2)
  | none => false

end Timestamp

------------------------------------------------------------
-- Plain Scalars
------------------------------------------------------------

/- The text without a line feed at its end. -/
def withoutLastBreak
    (cs : List Char) : List Char :=
  match cs.reverse with
  | '\n' :: rest => if rest = [] then cs else rest.reverse
  | _ => cs

/- What a scalar without quotes stands for. -/
def Tag.ofPlain
    (text : Text) : Tag :=
  let cs := withoutLastBreak text.chars
  if isBoolText cs then .bool
  else if isFloatText cs then .float
  else if isIntText cs then .int
  else if cs = ['<', '<'] then .merge
  else if isNullText cs then .null
  else if Timestamp.isPlain cs then .timestamp
  else if cs = ['='] then .value
  else if cs = ['!'] ∨ cs = ['&'] ∨ cs = ['*'] then .unknown
  else .str

end Yaml

end Joinery
