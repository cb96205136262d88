/-
A cursor over bytes: how many have been read and which are to come. Reading gives a result or a
reason, and in both cases the cursor after it.
-/
import SolidityWire.Wire.Fault

namespace SolidityWire

/-- A place in a list of bytes. -/
structure Cursor where
  position : Nat
  rest : List UInt8
  deriving DecidableEq, Inhabited, Repr

/-- What reading gives: a result or a reason, and the cursor after it. -/
abbrev Decoder (α : Type) := Cursor → Except DecodeError α × Cursor

namespace Cursor

/-- The cursor at an offset, which may lie anywhere from the start to the end. -/
def at? (offset : Int) (bytes : List UInt8) : Except DecodeError Cursor :=
  if 0 ≤ offset ∧ offset ≤ bytes.length then .ok ⟨offset.toNat, bytes.drop offset.toNat⟩
  else .error (.offsetOutside offset bytes.length)

/-- Whether nothing is left. -/
def atEnd (c : Cursor) : Bool :=
  c.rest.isEmpty

/-- The first `n` bytes and the others, if there are as many. -/
def split? : (n : Nat) → List UInt8 → Option (List UInt8 × List UInt8)
  | 0, bytes => some ([], bytes)
  | _ + 1, [] => none
  | n + 1, b :: bytes => (split? n bytes).map fun (front, back) => (b :: front, back)

end Cursor

namespace Decoder

/-- The decoder that reads nothing. -/
def give {α : Type} (a : α) : Decoder α :=
  fun c => (.ok a, c)

/-- The decoder that refuses what comes. -/
def refuse {α : Type} (e : DecodeError) : Decoder α :=
  fun c => (.error e, c)

/-- First one decoder, then the one that its result chooses; a reason stops at once. -/
def andThen {α β : Type} (d : Decoder α) (f : α → Decoder β) : Decoder β :=
  fun c =>
    match d c with
    | (.ok a, c') => f a c'
    | (.error e, c') => (.error e, c')

/-- A decoder with its result changed. -/
def map {α β : Type} (f : α → β) (d : Decoder α) : Decoder β :=
  d.andThen fun a => give (f a)

/-- Reads one byte. -/
def byte : Decoder UInt8 :=
  fun c =>
    match c.rest with
    | [] => (.error (.endOfInput c.position), c)
    | b :: rest => (.ok b, ⟨c.position + 1, rest⟩)

/-- Reads `n` bytes, or none of them. -/
def bytes (n : Nat) : Decoder (List UInt8) :=
  fun c =>
    match Cursor.split? n c.rest with
    | some (front, back) => (.ok front, ⟨c.position + n, back⟩)
    | none => (.error (.notEnough n c.position c.rest.length), c)

end Decoder

end SolidityWire
