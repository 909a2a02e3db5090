/-
  This file decodes bytes that are written in base 64.

  Key definitions include:
    * `sextet?`
    * `decodeBase64?`
-/

namespace Joinery

namespace Encoding

/- The value of a character in base 64. -/
def sextet?
    (c : Char) : Option Nat :=
  if 'A' ≤ c ∧ c ≤ 'Z' then some (c.toNat - 'A'.toNat)
  else if 'a' ≤ c ∧ c ≤ 'z' then some (c.toNat - 'a'.toNat + 26)
  else if '0' ≤ c ∧ c ≤ '9' then some (c.toNat - '0'.toNat + 52)
  else if c = '+' then some 62
  else if c = '/' then some 63
  else none

/- The characters that count: those of base 64 up to a complete padding. -/
def base64Digits
    (count pads : Nat) : List Char → Option (List Nat)
  | [] => if count % 4 = 0 then some [] else none
  | c :: rest =>
      if c = '=' then
        if 2 ≤ count % 4 ∧ 4 ≤ count % 4 + pads + 1 then some []
        else base64Digits count (pads + 1) rest
      else
        match sextet? c with
        | some n => (base64Digits (count + 1) 0 rest).map (n :: ·)
        | none => base64Digits count pads rest

/- The bytes that groups of four digits make up. -/
def base64Bytes : List Nat → List UInt8
  | a :: b :: c :: d :: rest =>
      (4 * a + b / 16).toUInt8 :: (16 * (b % 16) + c / 4).toUInt8 ::
        (64 * (c % 4) + d).toUInt8 :: base64Bytes rest
  | [a, b, c] =>
      [(4 * a + b / 16).toUInt8, (16 * (b % 16) + c / 4).toUInt8]
  | [a, b] => [(4 * a + b / 16).toUInt8]
  | _ => []

/-
  The bytes that a text in base 64 stands for. Characters
  that do not belong to it are skipped; the last group must
  be complete or padded.
-/
def decodeBase64?
    (cs : List Char) : Option (List UInt8) :=
  (base64Digits 0 0 cs).map base64Bytes

end Encoding

end Joinery
