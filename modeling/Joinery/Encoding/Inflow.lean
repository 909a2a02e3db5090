import Joinery.Encoding.Utf8
import Joinery.Fault

/-
  This file reads a file of text piece by piece.

  Bytes are read in chunks, and a chunk that cannot be
  decoded fails as a whole, together with the piece that
  needed it. So where a file is at fault, all pieces before
  that one can still be read.

  Key definitions include:
    * `unifyBreaks`
    * `Inflow`
    * `Inflow.piece`
    * `Pieces`
    * `pieces`
-/

namespace Joinery

namespace Encoding

/- Line breaks as single line feeds. -/
def unifyBreaks : List Char → List Char
  | [] => []
  | '\r' :: '\n' :: rest => '\n' :: unifyBreaks rest
  | '\r' :: rest => '\n' :: unifyBreaks rest
  | c :: rest => c :: unifyBreaks rest

------------------------------------------------------------
-- Chunks
------------------------------------------------------------

/-
  How far a file has been read: the bytes that are left, a
  character that has begun, whether a carriage return waits
  for a line feed that may follow it, the characters that
  are ready, how many bytes a character of the last chunk
  took, and whether the end of the file has been met.
-/
structure Inflow where
  bytes : List UInt8
  begun : Option Begun := none
  returned : Bool := false
  ready : List Char := []
  width : Float := 0.0
  ended : Bool := false

/- The size of a chunk, in bytes, unless characters are wide. -/
def chunkSize : Nat := 8192

namespace Inflow

/- How many bytes are read where so many characters are wanted. -/
def chunkFor
    (flow : Inflow)
    (wanted : Nat) : Nat :=
  let width := if flow.width < 1.0 then 1.0 else flow.width
  max chunkSize (width * Float.ofNat wanted).toUInt64.toNat

/- How many bytes a character takes on average. -/
def widthOf
    (bytes chars : Nat) : Float :=
  if chars = 0 then 0.0 else Float.ofNat bytes / Float.ofNat chars

/-
  Take the characters of a chunk in. A carriage return at
  its end is kept back, for it may belong to a line feed in
  the next chunk, but not at the end of the file.
-/
def takeIn
    (flow : Inflow)
    (size : Nat)
    (found : List Char) : Inflow :=
  let last := size = 0
  let comes := flow.returned && (last || !found.isEmpty)
  let all := if comes then '\r' :: found else found
  let keeps := !last && all.getLast? == some '\r'
  let text := unifyBreaks (if keeps then all.dropLast else all)
  { flow with
    returned := keeps || (flow.returned && !comes)
    ready := flow.ready ++ text
    width := widthOf size text.length
    ended := last && text.isEmpty }

/-
  Read one more chunk. At the end of the file no character
  may be left unfinished.
-/
def chunk
    (flow : Inflow)
    (wanted : Nat) : Outcome Inflow :=
  let (now, later) := flow.bytes.splitAt (flow.chunkFor wanted)
  match Decoding.takeAll? ⟨[], flow.begun⟩ now with
  | none => fail .notDecodable
  | some decoding =>
      if now.isEmpty && decoding.begun.isSome then fail .notDecodable
      else
        let next := flow.takeIn now.length decoding.chars
        .ok { next with bytes := later, begun := decoding.begun }

/-
  Read until so many characters are ready or the file ends.
  Every chunk but the last two has bytes.
-/
def fill
    (wanted : Nat) : Nat → Inflow → Outcome Inflow
  | 0, flow => .ok flow
  | fuel + 1, flow =>
      let missing := wanted - flow.ready.length
      if missing = 0 || flow.ended then .ok flow
      else do fill wanted fuel (← flow.chunk missing)

/- The next so many characters, or those that are left. -/
def piece
    (flow : Inflow)
    (wanted : Nat) : Outcome (List Char × Inflow) := do
  let full ← fill wanted (flow.bytes.length + 2) flow
  let (now, later) := full.ready.splitAt wanted
  return (now, { full with ready := later })

end Inflow

------------------------------------------------------------
-- Pieces
------------------------------------------------------------

/- The pieces of a file, up to the fault that ends them, if any. -/
structure Pieces where
  texts : List (List Char)
  fault : Option Fault
  deriving Inhabited

/- The pieces of a file that is read so many characters at a time. -/
def piecesFrom
    (wanted : Nat) : Nat → Inflow → Pieces
  | 0, _ => ⟨[], none⟩
  | fuel + 1, flow =>
      match flow.piece wanted with
      | .error fault => ⟨[], some fault⟩
      | .ok ([], _) => ⟨[], none⟩
      | .ok (text, rest) =>
          let later := piecesFrom wanted fuel rest
          { later with texts := text :: later.texts }

/- The pieces of the file with given bytes. -/
def pieces
    (wanted : Nat)
    (bytes : List UInt8) : Pieces :=
  piecesFrom wanted (bytes.length + 1) { bytes := bytes }

end Encoding

end Joinery
