import Joinery.Text.Basic
import Joinery.Text.Hex

/-
  This file writes text as JSON strings in ASCII.

  Key definitions include:
    * `jsonEscape`
    * `jsonLetter`
    * `jsonString`
-/

namespace Joinery

namespace Text

/- The short escapes of JSON. -/
def jsonShort : List (Char × Char) :=
  [ ('\x22', '\x22'), ('\\', '\\'), ('\n', 'n'), ('\r', 'r'),
    ('\t', 't'), ('\x0c', 'f'), ('\x08', 'b') ]

/- A unit of sixteen bits as an escape. -/
def unitEscape
    (n : Nat) : List Char :=
  '\\' :: 'u' :: hex 4 n

/-
  A character by its code point: in one unit of sixteen bits
  or, beyond these, in a pair.
-/
def pairEscape
    (n : Nat) : List Char :=
  if n < 0x10000 then unitEscape n
  else
    let m := n - 0x10000
    unitEscape (0xd800 + m / 0x400) ++ unitEscape (0xdc00 + m % 0x400)

/- One character inside a JSON string. -/
def jsonEscape
    (c : Char) : List Char :=
  match jsonShort.lookup c with
  | some letter => ['\\', letter]
  | none =>
      if 0x20 ≤ c.toNat ∧ c.toNat < 0x7f then [c]
      else pairEscape c.toNat

/- One code point inside a JSON string. -/
def jsonLetter : Letter → List Char
  | .char c => jsonEscape c
  | .surrogate s => unitEscape s.code

/- A text as a JSON string. -/
def jsonString
    (t : Text) : String :=
  String.ofList
    ('\x22' :: (t.letters.flatMap jsonLetter ++ ['\x22']))

end Text

end Joinery
