/-
Integers of fixed width on the wire: little-endian, negative ones as two's complement.
-/
import SolidityWire.Power
import SolidityWire.Wire.Cursor

namespace SolidityWire

namespace Integer

/-- The low `width` bytes of a number, the least significant first. -/
def toBytes : (width n : Nat) → List UInt8
  | 0, _ => []
  | width + 1, n => n.toUInt8 :: toBytes width (n / 256)

/-- The number that bytes write, the least significant first. -/
def ofBytes : List UInt8 → Nat
  | [] => 0
  | b :: bytes => b.toNat + 256 * ofBytes bytes

/-- The number of values of a width in bytes. -/
def modulus (width : Nat) : Nat :=
  256 ^ width

/-- Whether the integer type has the number. -/
def inRange (signed : Bool) (width : Nat) (n : Int) : Bool :=
  if signed then -(modulus width : Int) ≤ 2 * n && 2 * n < modulus width
  else 0 ≤ n && n < modulus width

/-- The bytes of an integer. -/
def encode (width : Nat) (n : Int) : List UInt8 :=
  toBytes width (n % modulus width).toNat

/-- The integer that a number below the modulus stands for. -/
def ofResidue (signed : Bool) (width n : Nat) : Int :=
  if signed ∧ modulus width ≤ 2 * n then (n : Int) - modulus width else n

/-- Reads an integer. -/
def decode (signed : Bool) (width : Nat) : Decoder Int :=
  (Decoder.bytes width).map fun bytes => ofResidue signed width (ofBytes bytes)

end Integer

end SolidityWire
