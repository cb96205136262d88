/-
Lengths on the wire: groups of seven bits, the least significant group first, every byte but the
last with its high bit set. A length has at most 64 bits and no group too many.
-/
import SolidityWire.Power
import SolidityWire.Wire.Cursor

namespace SolidityWire

namespace Length

/-- The bytes of a length. -/
def encode (n : Nat) : List UInt8 :=
  if n < 128 then [n.toUInt8] else (n % 128 + 128).toUInt8 :: encode (n / 128)
termination_by n
decreasing_by omega

/-- The bytes of a value taken as a length. A number below zero is refused before its kind is looked
at. -/
def encodeValue (v : Value) : Except EncodeError (List UInt8) :=
  match v.compareWhole? 0, v.wholeNumber? with
  | some (some .lt), _ => .error (.negativeLength v)
  | _, some n => .ok (encode n.toNat)
  | _, none => .error (.lengthNotWhole v)

/-- Reads the groups from the one at the given number of bits on, at most `groups` of them; `value`
is what the groups before it are worth. -/
def decodeGroups : (groups shift value : Nat) → Decoder Nat
  | 0, _, _ => Decoder.refuse .lengthOverflow
  | groups + 1, shift, value =>
    Decoder.byte.andThen fun b =>
      -- Nine groups hold 63 bits: the tenth has room for one bit, and for no group after it.
      if shift = 63 ∧ b > 1 then Decoder.refuse .lengthOverflow
      else
        let value := value + b.toNat % 128 * 2 ^ shift
        if b < 128 then
          -- A last group of zero adds nothing, so the same length would have two forms.
          if b = 0 ∧ shift > 0 then Decoder.refuse .paddedLength else Decoder.give value
        else decodeGroups groups (shift + 7) value

/-- Reads a length. -/
def decode : Decoder Nat :=
  decodeGroups 10 0 0

/-- The length at an offset of the bytes, and how many of them it takes. -/
def decodeAt (offset : Int) (bytes : List UInt8) : Except DecodeError (Nat × Nat) := do
  let cur ← Cursor.at? offset bytes
  match decode cur with
  | (.ok n, cur') => return (n, cur'.position - cur.position)
  | (.error e, _) => throw e

end Length

end SolidityWire
