/-
  This file defines texts.

  A text is a sequence of code points. Nearly all of them
  are characters. A code point that is reserved for one half
  of a pair is not, but can stand in a text all the same, so
  a text is a string, or several strings with such code
  points between them.

  Key definitions include:
    * `Surrogate`
    * `Letter`
    * `Text`
    * `Text.letters`
    * `Text.ofLetters`
    * `Text.chars`
    * `Text.string?`
    * `Text.joined`
-/

namespace Joinery

------------------------------------------------------------
-- Letters
------------------------------------------------------------

/- A code point that is reserved for one half of a pair. -/
structure Surrogate where
  offset : Fin 0x800
  deriving DecidableEq, Repr

/- The number of a reserved code point. -/
def Surrogate.code
    (s : Surrogate) : Nat :=
  0xd800 + s.offset

/- A code point of a text. -/
inductive Letter where
  | char
      (c : Char)
  | surrogate
      (s : Surrogate)
  deriving DecidableEq, Repr

instance : Coe Char Letter :=
  ⟨.char⟩

namespace Letter

/- The number of a code point. -/
def code : Letter → Nat
  | .char c => c.toNat
  | .surrogate s => s.code

/- The code point with a number, if there is one. -/
def ofCode?
    (n : Nat) : Option Letter :=
  if h : n - 0xd800 < 0x800 ∧ 0xd800 ≤ n then
    some (.surrogate ⟨⟨n - 0xd800, h.1⟩⟩)
  else if n < 0x110000 then some (.char (Char.ofNat n))
  else none

/- The character that is read where no character can stand. -/
def replacement : Char := '\ufffd'

/-
  A code point as a character. A reserved one reads as the
  replacement character, which belongs to no class.
-/
def toChar : Letter → Char
  | .char c => c
  | .surrogate _ => replacement

end Letter

------------------------------------------------------------
-- Texts
------------------------------------------------------------

/-
  A text: a string, and further strings, each behind a
  reserved code point.
-/
structure Text where
  start : String := ""
  rest : List (Surrogate × String) := []
  deriving DecidableEq, Repr, Inhabited

namespace Text

/- A string as a text. -/
def ofString
    (s : String) : Text :=
  ⟨s, []⟩

instance : Coe String Text :=
  ⟨ofString⟩

/- Characters as a text. -/
def ofList
    (cs : List Char) : Text :=
  ofString (String.ofList cs)

/- The string that a text is, if it holds characters only. -/
def string?
    (t : Text) : Option String :=
  match t.rest with
  | [] => some t.start
  | _ => none

------------------------------------------------------------
-- Letters Of A Text
------------------------------------------------------------

/- The code points of a text. -/
def letters
    (t : Text) : List Letter :=
  t.start.toList.map .char ++
    t.rest.flatMap fun e =>
      .surrogate e.1 :: e.2.toList.map .char

/- The characters before the first reserved code point, and the rest. -/
def splitLetters :
    List Letter → List Char × List (Surrogate × String)
  | [] => ([], [])
  | .char c :: others =>
      let (cs, rest) := splitLetters others
      (c :: cs, rest)
  | .surrogate s :: others =>
      let (cs, rest) := splitLetters others
      ([], (s, String.ofList cs) :: rest)

/- The text of code points. -/
def ofLetters
    (ls : List Letter) : Text :=
  let (cs, rest) := splitLetters ls
  ⟨String.ofList cs, rest⟩

/- A single code point as a text. -/
def ofLetter
    (l : Letter) : Text :=
  ofLetters [l]

/-
  The characters that a text is read as. A reserved code
  point reads as the replacement character.
-/
def chars
    (t : Text) : List Char :=
  match t.string? with
  | some s => s.toList
  | none => t.letters.map Letter.toChar

/- How many code points a text has. -/
def length
    (t : Text) : Nat :=
  t.rest.foldl (fun n e => n + 1 + e.2.length) t.start.length

/- A text without any code point. -/
def isEmpty
    (t : Text) : Bool :=
  t.start.isEmpty && t.rest.isEmpty

/- The order of texts by their code points. -/
def precedes
    (a b : Text) : Bool :=
  a.letters.map Letter.code < b.letters.map Letter.code

/- A text with its strings changed, each one by itself. -/
def mapStrings
    (f : String → String)
    (t : Text) : Text :=
  ⟨f t.start, t.rest.map fun e => (e.1, f e.2)⟩

------------------------------------------------------------
-- Joining
------------------------------------------------------------

/- Put a text behind strings that follow reserved code points. -/
def appendRest
    (t : Text) :
    List (Surrogate × String) → List (Surrogate × String)
  | [] => t.rest
  | [(s, last)] => (s, last ++ t.start) :: t.rest
  | e :: others => e :: appendRest t others

/- One text behind the other. -/
def append : Text → Text → Text
  | ⟨start, []⟩, t => ⟨start ++ t.start, t.rest⟩
  | ⟨start, rest⟩, t => ⟨start, appendRest t rest⟩

instance : Append Text :=
  ⟨append⟩

/- Texts one behind the other. -/
def join
    (ts : List Text) : Text :=
  ts.foldl append { }

/- Texts one behind the other, with a separator between them. -/
def joined
    (separator : String) : List Text → Text
  | [] => { }
  | t :: rest =>
      rest.foldl (fun acc next => (acc.append separator).append next) t

/- A text a number of times. -/
def times
    (t : Text)
    (n : Nat) : Text :=
  join (List.replicate n t)

end Text

end Joinery
