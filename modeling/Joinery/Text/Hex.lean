/-
  This file writes and reads hexadecimal digits.

  Key definitions include:
    * `hexDigit`
    * `hex`
    * `hexValue?`
-/

namespace Joinery

namespace Text

/- The digit for a value below sixteen, in small letters. -/
def hexDigit
    (n : Nat) : Char :=
  if n < 10 then Char.ofNat (0x30 + n)
  else Char.ofNat (0x57 + n)

/- A number in exactly `width` hexadecimal digits. -/
def hex
    (width : Nat)
    (n : Nat) : List Char :=
  match width with
  | 0 => []
  | width + 1 => hex width (n / 16) ++ [hexDigit (n % 16)]

/- A number in as few hexadecimal digits as it needs. -/
def hexNumber
    (n : Nat) : List Char :=
  Nat.toDigits 16 n

/- The value of a hexadecimal digit, in either case. -/
def hexValue?
    (c : Char) : Option Nat :=
  if '0' ≤ c ∧ c ≤ '9' then some (c.toNat - 0x30)
  else if 'a' ≤ c ∧ c ≤ 'f' then some (c.toNat - 0x57)
  else if 'A' ≤ c ∧ c ≤ 'F' then some (c.toNat - 0x37)
  else none

end Text

end Joinery
