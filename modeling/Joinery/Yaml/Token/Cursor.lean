import Joinery.Yaml.Source
import Joinery.Yaml.Token.Basic

/-
  This file defines the state in which YAML text is cut into
  tokens: the place in the text, the open blocks, and the
  tokens that may turn out to be keys.

  The text ends with a mark, unless a fault comes behind it.
  Then it ends without one, and whoever looks beyond its
  last character meets the fault.

  Key definitions include:
    * `SimpleKey`
    * `Cursor`
    * `Cursor.ofSource`
    * `Scan`
    * `peek`
    * `forward`
    * `takeWhile`
    * `looping`
    * `lineBreak`
-/

namespace Joinery

namespace Yaml

------------------------------------------------------------
-- Character Classes
------------------------------------------------------------

/- The end of the text reads as the null character. -/
def endMark : Char := '\x00'

/- A character that ends a line. -/
def isBreak
    (c : Char) : Bool :=
  c == '\n' || c == '\r' || c.toNat == 0x85 ||
    c.toNat == 0x2028 || c.toNat == 0x2029

/- The end of a line or of the text. -/
def isLineEnd
    (c : Char) : Bool :=
  c == endMark || isBreak c

/- A space, or the end of a line or of the text. -/
def isSpaceOrEnd
    (c : Char) : Bool :=
  c == ' ' || isLineEnd c

/- A space or tab, or the end of a line or of the text. -/
def isBlankOrEnd
    (c : Char) : Bool :=
  c == '\t' || isSpaceOrEnd c

/- A character of a name: a letter, a digit, a dash, or a low line. -/
def isNameChar
    (c : Char) : Bool :=
  ('0' ≤ c && c ≤ '9') || ('A' ≤ c && c ≤ 'Z') ||
    ('a' ≤ c && c ≤ 'z') || c == '-' || c == '_'

------------------------------------------------------------
-- State
------------------------------------------------------------

/-
  A place where a key may have begun: how many tokens come
  before it, and where in the text it is. A required key
  stands where nothing but a key can.
-/
structure SimpleKey where
  tokens : Nat
  required : Bool
  index : Nat
  line : Nat
  column : Nat

/-
  The state of cutting text into tokens: the text that is
  left, the fault behind it, the place reached, the tokens
  that wait to be taken, how many have been taken before
  them, whether the last one has been found, the number of
  open flow collections, the indentation of the open blocks,
  whether a key may begin here, and for each level of flow
  the place where one may have begun.
-/
structure Cursor where
  rest : List Char
  fault : Option Fault := none
  index : Nat := 0
  line : Nat := 0
  column : Nat := 0
  waiting : List Token := []
  taken : Nat := 0
  ended : Bool := false
  flow : Nat := 0
  indent : Int := -1
  indents : List Int := []
  allowKey : Bool := true
  keys : List (Nat × SimpleKey) := []

namespace Cursor

/- The beginning of a source. -/
def ofSource
    (source : Source) : Cursor :=
  { rest :=
      if source.fault.isNone then source.text ++ [endMark]
      else source.text
    fault := source.fault }

/- How many tokens have been found so far. -/
def found
    (cursor : Cursor) : Nat :=
  cursor.taken + cursor.waiting.length

end Cursor

/- A step of cutting text into tokens. -/
abbrev Scan :=
  EStateM Fault Cursor

/- The text is not YAML. -/
def malformed
    {α : Type}
    (problem : String) : Scan α :=
  throw (.markup problem)

------------------------------------------------------------
-- Moving
------------------------------------------------------------

/- The text ends too early, if there is a fault behind it. -/
def needMore : Scan Unit := do
  if let some fault := (← get).fault then throw fault

/- The character so many places ahead. -/
def peek
    (ahead : Nat) : Scan Char := do
  match (← get).rest[ahead]? with
  | some c => return c
  | none =>
      needMore
      return endMark

/- The place after one character. A byte order mark has no width. -/
def Cursor.step
    (cursor : Cursor)
    (c : Char)
    (rest : List Char) : Cursor :=
  let moved := { cursor with rest := rest, index := cursor.index + 1 }
  if isBreak c && !(c == '\r' && rest.head? == some '\n') then
    { moved with line := cursor.line + 1, column := 0 }
  else if c.toNat == 0xfeff then moved
  else { moved with column := cursor.column + 1 }

/- The place after so many characters. -/
def Cursor.forward
    (cursor : Cursor) : Nat → Cursor
  | 0 => cursor
  | n + 1 =>
      match cursor.rest with
      | [] => cursor
      | c :: rest => (cursor.step c rest).forward n

/-
  Move so many characters ahead. The next character is
  looked at in advance.
-/
def forward
    (n : Nat) : Scan Unit := do
  modify fun cursor => cursor.forward n
  if (← get).rest.isEmpty then needMore

/- Take the characters of a class at the front. -/
def takeWhile
    (p : Char → Bool) : Scan String := do
  let run := (← get).rest.takeWhile p
  forward run.length
  return String.ofList run

/- Drop the characters of a class at the front. -/
def skipWhile
    (p : Char → Bool) : Scan Unit := do
  let _ ← takeWhile p

/- Repeat a step while it asks for more, at most once per character. -/
def repeating
    (step : Scan Bool) : List Char → Scan Unit
  | [] => return
  | _ :: text => do if ← step then repeating step text

/-
  Repeat a step while it asks for more. Every step but the
  last consumes a character, so the text left bounds their
  number.
-/
def looping
    (step : Scan Bool) : Scan Unit := do
  repeating step (endMark :: endMark :: (← get).rest)

/-
  Take a line break. The usual ones become a line feed, the
  two separators of Unicode stay as they are, and elsewhere
  nothing is taken.
-/
def lineBreak : Scan String := do
  let c ← peek 0
  if c == '\r' then
    forward (if (← peek 1) == '\n' then 2 else 1)
    return "\n"
  else if c == '\n' || c.toNat == 0x85 then
    forward 1
    return "\n"
  else if isBreak c then
    forward 1
    return String.singleton c
  else return ""

/- Three dashes or three points at a place where a document may end. -/
def atDocumentMark : Scan Bool := do
  let c ← peek 0
  let d ← peek 1
  let e ← peek 2
  if (c == '-' || c == '.') && d == c && e == c then
    return isBlankOrEnd (← peek 3)
  else return false

/- The rest of a line that may hold only blanks and a comment. -/
def restOfLine : Scan Unit := do
  skipWhile (· == ' ')
  if (← peek 0) == '#' then skipWhile fun c => !isLineEnd c
  if !isLineEnd (← peek 0) then
    malformed "expected a comment or a line break"
  let _ ← lineBreak

/- Add a token to those that wait. -/
def emit
    (token : Token) : Scan Unit :=
  modify fun cursor =>
    { cursor with waiting := cursor.waiting ++ [token] }

end Yaml

end Joinery
