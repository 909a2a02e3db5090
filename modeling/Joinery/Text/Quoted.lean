import Joinery.Text.Basic
import Joinery.Text.Hex
import Joinery.Text.Printable

/-
  This file writes text and bytes in quotes, so that every
  code point can be told apart on a line of a message.

  Key definitions include:
    * `quoteMark`
    * `quotedChar`
    * `quotedLetter`
    * `quoted`
    * `quotedBytes`
-/

namespace Joinery

namespace Text

/- The apostrophe. -/
def apostrophe : Char := '\x27'

/- The double quote. -/
def doubleQuote : Char := '\x22'

/-
  Text is put in apostrophes, unless it holds apostrophes
  and no double quotes.
-/
def quoteMark
    (cs : List Char) : Char :=
  if cs.contains apostrophe && !cs.contains doubleQuote then
    doubleQuote
  else apostrophe

/- The escape of a character by its code point, as short as possible. -/
def codePointEscape
    (n : Nat) : List Char :=
  if n < 0x100 then '\\' :: 'x' :: hex 2 n
  else if n < 0x10000 then '\\' :: 'u' :: hex 4 n
  else '\\' :: 'U' :: hex 8 n

/- One character of a text inside the given quotes. -/
def quotedChar
    (mark c : Char) : List Char :=
  if c = mark ∨ c = '\\' then ['\\', c]
  else if c = '\n' then ['\\', 'n']
  else if c = '\r' then ['\\', 'r']
  else if c = '\t' then ['\\', 't']
  else if isPrintable c then [c]
  else codePointEscape c.toNat

/- One code point of a text; a reserved one is always escaped. -/
def quotedLetter
    (mark : Char) : Letter → List Char
  | .char c => quotedChar mark c
  | .surrogate s => codePointEscape s.code

/- A text in quotes. -/
def quoted
    (t : Text) : String :=
  let mark := quoteMark t.chars
  String.ofList
    (mark :: (t.letters.flatMap (quotedLetter mark) ++ [mark]))

/- One byte inside the given quotes; only ASCII is shown as itself. -/
def quotedByte
    (mark : Char)
    (b : UInt8) : List Char :=
  if 0x7f ≤ b then codePointEscape b.toNat
  else quotedChar mark (Char.ofNat b.toNat)

/- Bytes in quotes after a `b`. -/
def quotedBytes
    (bs : List UInt8) : String :=
  let mark := quoteMark (bs.map fun b => Char.ofNat b.toNat)
  String.ofList ('b' :: mark :: (bs.flatMap (quotedByte mark) ++ [mark]))

end Text

end Joinery
