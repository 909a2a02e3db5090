import Joinery.Encoding.Utf8

/-
  This file encodes the names of files.

  A name of a file is a sequence of bytes, in UTF-8 as a
  rule. A byte that does not belong to a character is shown
  as a reserved code point, and such a code point in a name
  stands for its byte.

  Key definitions include:
    * `fileName?`
    * `ofFileName`
    * `asFileName?`
-/

namespace Joinery

namespace Encoding

/- What is added to a byte to give its reserved code point. -/
def byteBase : Nat := 0xdc00

/- The bytes of a code point in the name of a file. -/
def fileNameLetter? : Letter → Option (List UInt8)
  | .char c => some (utf8Bytes c.toNat)
  | .surrogate s =>
      if byteBase + 0x80 ≤ s.code ∧ s.code < byteBase + 0x100 then
        some [(s.code - byteBase).toUInt8]
      else none

/- The bytes of the name of a file, if it can be one. -/
def fileName?
    (t : Text) : Option (List UInt8) :=
  (t.letters.mapM fileNameLetter?).map List.flatten

/- The code point that shows a byte outside of characters. -/
def byteLetter
    (b : UInt8) : List Letter :=
  (Letter.ofCode? (byteBase + b.toNat)).toList

/-
  How far the reading of a name has come: the code points
  found, the last one first, and the bytes, also the last
  one first, of a character that has begun.
-/
structure Naming where
  reversed : List Letter := []
  begun : Option Begun := none
  held : List UInt8 := []

namespace Naming

/- The held bytes belong to no character. -/
def release
    (name : Naming) : Naming :=
  { reversed := name.held.flatMap byteLetter ++ name.reversed }

/- Take a byte where no character has begun. -/
def start
    (name : Naming)
    (b : UInt8) : Naming :=
  match Decoding.take? { } b with
  | none => { name with reversed := byteLetter b ++ name.reversed }
  | some d =>
      match d.begun with
      | none =>
          { name with reversed := d.reversed.map .char ++ name.reversed }
      | some begun => { name with begun := some begun, held := [b] }

/- Take one more byte. -/
def take
    (name : Naming)
    (b : UInt8) : Naming :=
  match name.begun with
  | none => name.start b
  | some begun =>
      match Decoding.take? ⟨[], some begun⟩ b with
      | none => name.release.start b
      | some d =>
          match d.begun with
          | none =>
              { reversed := d.reversed.map .char ++ name.reversed }
          | some next =>
              { name with begun := some next, held := b :: name.held }

end Naming

/- The text that shows the name of a file. -/
def ofFileName
    (bytes : List UInt8) : Text :=
  .ofLetters (bytes.foldl Naming.take { }).release.reversed.reverse

/-
  A text as the name of a file is shown. Reserved code
  points whose bytes make up a character become this
  character.
-/
def asFileName?
    (t : Text) : Option Text :=
  match t.string? with
  | some _ => some t
  | none => (fileName? t).map ofFileName

end Encoding

end Joinery
