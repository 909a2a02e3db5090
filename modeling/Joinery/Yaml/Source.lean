import Joinery.Encoding.Inflow

/-
  This file prepares the text of a file for being cut into
  tokens.

  The text arrives piece by piece, and what is wrong with a
  piece is noticed when the first character of it is needed.
  So a file with a fault is the text before the faulty
  piece, and the fault that comes after it.

  Key definitions include:
    * `isAllowed`
    * `Source`
    * `Source.ofPieces`
    * `Source.ofBytes`
-/

namespace Joinery

namespace Yaml

/-
  A character that YAML text may hold. Controls other than
  the tab and the line breaks are refused.
-/
def isAllowed
    (c : Char) : Bool :=
  let n := c.toNat
  n == 9 || n == 10 || n == 13 || (0x20 ≤ n && n ≤ 0x7e) ||
    n == 0x85 || (0xa0 ≤ n && n ≤ 0xfffd) || 0x10000 ≤ n

/-
  A text, and the fault behind its last character. Without
  one, the text ends there.
-/
structure Source where
  text : List Char
  fault : Option Fault

namespace Source

/- The fault of a piece that holds a character that is not allowed. -/
def notAllowed : Fault :=
  .markup "special characters are not allowed"

/- The source of pieces, each of which is checked as a whole. -/
def ofPieces : Encoding.Pieces → Source
  | ⟨[], fault⟩ => ⟨[], fault⟩
  | ⟨piece :: others, fault⟩ =>
      if piece.all isAllowed then
        let rest := ofPieces ⟨others, fault⟩
        { rest with text := piece ++ rest.text }
      else ⟨[], some notAllowed⟩

/- How many characters are asked for at a time. -/
def pieceSize : Nat := 4096

/- The first two pieces are needed before anything is looked at. -/
def joinFirst : Encoding.Pieces → Encoding.Pieces
  | ⟨first :: second :: others, fault⟩ =>
      ⟨(first ++ second) :: others, fault⟩
  | ⟨[first], none⟩ => ⟨[first], none⟩
  | ⟨_, fault⟩ => ⟨[], fault⟩

/- The source that the bytes of a file hold. -/
def ofBytes
    (bytes : List UInt8) : Source :=
  ofPieces (joinFirst (Encoding.pieces pieceSize bytes))

end Source

end Yaml

end Joinery
