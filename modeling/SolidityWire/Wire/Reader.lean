/-
A reader that can go back: sizes may be negative, so that its position may lie before the bytes that
were read, or even before the first byte. Positions below zero count from the end.
-/
import SolidityWire.Wire.Cursor

namespace SolidityWire

/-- Bytes, and the position of the next one to read. -/
structure Reader where
  data : List UInt8
  position : Int
  deriving DecidableEq, Inhabited, Repr

namespace Reader

/-- The reader at an offset, which may lie anywhere from the start to the end. -/
def at? (offset : Int) (data : List UInt8) : Except DecodeError Reader :=
  (Cursor.at? offset data).map fun c => ⟨data, c.position⟩

/-- The number of bytes from the position to the end. -/
def remaining (r : Reader) : Int :=
  r.data.length - r.position

/-- The number of bytes in front of a position: none for one before the start, all for one behind
the end. -/
def bytesBefore (length : Nat) (position : Int) : Nat :=
  if position < 0 then (position + length).toNat else min position.toNat length

/-- The bytes between two positions. -/
def slice (data : List UInt8) (start stop : Int) : List UInt8 :=
  (data.take (bytesBefore data.length stop)).drop (bytesBefore data.length start)

/-- Reads `size` bytes, or none of them; a negative size only moves back. -/
def read (size : Int) (r : Reader) : Except DecodeError (List UInt8) × Reader :=
  if r.remaining < size then (.error (.notEnough size r.position r.remaining), r)
  else (.ok (slice r.data r.position (r.position + size)), { r with position := r.position + size })

/-- Reads one byte. -/
def readByte (r : Reader) : Except DecodeError UInt8 × Reader :=
  if r.data.length ≤ r.position then (.error (.endOfInput r.position.toNat), r)
  else
    let found := if r.position + r.data.length < 0 then none
      else r.data[bytesBefore r.data.length r.position]?
    match found with
    | none => (.error (.beforeStart r.position), r)
    | some b => (.ok b, { r with position := r.position + 1 })

end Reader

end SolidityWire
