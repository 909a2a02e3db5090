import Joinery.Text.Basic

/-
  This file encodes text as bytes and decodes bytes as text.

  Key definitions include:
    * `utf8`
    * `encode?`
    * `Decoding`
    * `Decoding.take?`
    * `Decoding.takeAll?`
    * `decodeUtf8?`
-/

namespace Joinery

namespace Encoding

------------------------------------------------------------
-- Encoding
------------------------------------------------------------

/- The bytes of a code point in UTF-8. -/
def utf8Bytes
    (n : Nat) : List UInt8 :=
  let low (unit : Nat) : UInt8 := (0x80 + n / unit % 0x40).toUInt8
  if n < 0x80 then [n.toUInt8]
  else if n < 0x800 then [(0xc0 + n / 0x40).toUInt8, low 1]
  else if n < 0x10000 then
    [(0xe0 + n / 0x1000).toUInt8, low 0x40, low 1]
  else
    [(0xf0 + n / 0x40000).toUInt8, low 0x1000, low 0x40, low 1]

/- A string in UTF-8. -/
def utf8
    (s : String) : List UInt8 :=
  s.toList.flatMap fun c => utf8Bytes c.toNat

/-
  A string with one byte per character, if all code points
  lie below a limit.
-/
def narrow?
    (limit : Nat)
    (s : String) : Option (List UInt8) :=
  s.toList.mapM fun c =>
    if c.toNat < limit then some c.toNat.toUInt8 else none

/- The encoding that files are written in. -/
def ofFiles : String := "utf-8"

/-
  A text in an encoding by its name. No encoding has the
  reserved code points.
-/
def encode?
    (encoding : String)
    (t : Text) : Option (List UInt8) := do
  let s ← t.string?
  if encoding = "ascii" then narrow? 0x80 s
  else if encoding = "latin-1" then narrow? 0x100 s
  else return utf8 s

------------------------------------------------------------
-- Decoding
------------------------------------------------------------

/-
  A character of which some bytes are still to come: its
  number so far, how many bytes are missing, and the range
  of the next one.
-/
structure Begun where
  value : Nat
  missing : Nat
  least : Nat := 0x80
  most : Nat := 0xbf
  deriving DecidableEq, Repr

/-
  What a first byte beyond ASCII begins. The range of the
  second byte rules out longer forms than needed, reserved
  code points, and numbers beyond the last code point.
-/
def begin?
    (b : Nat) : Option Begun :=
  if b < 0xc2 then none
  else if b < 0xe0 then some ⟨b - 0xc0, 1, 0x80, 0xbf⟩
  else if b = 0xe0 then some ⟨0, 2, 0xa0, 0xbf⟩
  else if b = 0xed then some ⟨0xd, 2, 0x80, 0x9f⟩
  else if b < 0xf0 then some ⟨b - 0xe0, 2, 0x80, 0xbf⟩
  else if b = 0xf0 then some ⟨0, 3, 0x90, 0xbf⟩
  else if b < 0xf4 then some ⟨b - 0xf0, 3, 0x80, 0xbf⟩
  else if b = 0xf4 then some ⟨4, 3, 0x80, 0x8f⟩
  else none

/-
  How far decoding has come: the characters found, the last
  one first, and perhaps one that has begun.
-/
structure Decoding where
  reversed : List Char := []
  begun : Option Begun := none
  deriving DecidableEq, Repr

namespace Decoding

/- The characters found, in order. -/
def chars
    (d : Decoding) : List Char :=
  d.reversed.reverse

/- Decoding with one more character. -/
def found
    (d : Decoding)
    (n : Nat) : Decoding :=
  ⟨Char.ofNat n :: d.reversed, none⟩

/- Take one more byte, unless it cannot stand here. -/
def take?
    (d : Decoding)
    (b : UInt8) : Option Decoding :=
  let n := b.toNat
  match d.begun with
  | none =>
      if n < 0x80 then some (d.found n)
      else (begin? n).map fun begun => { d with begun := some begun }
  | some begun =>
      if n < begun.least ∨ begun.most < n then none
      else
        let value := 0x40 * begun.value + (n - 0x80)
        if begun.missing = 1 then some (d.found value)
        else
          let next : Begun :=
            { value := value, missing := begun.missing - 1 }
          some { d with begun := some next }

/- Take more bytes. -/
def takeAll?
    (d : Decoding)
    (bytes : List UInt8) : Option Decoding :=
  bytes.foldlM take? d

end Decoding

/- The text that bytes encode in UTF-8, if they do. -/
def decodeUtf8?
    (bytes : List UInt8) : Option (List Char) := do
  let d ← Decoding.takeAll? { } bytes
  if d.begun.isNone then some d.chars else none

end Encoding

end Joinery
