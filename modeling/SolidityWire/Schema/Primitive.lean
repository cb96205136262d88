/-
The primitive types: what a schema calls them, what their Solidity type is, and how wide they are on
the wire.
-/

namespace SolidityWire

/-- The widths of the integer types. -/
inductive IntWidth where
  | w8 | w16 | w32 | w64 | w128
  deriving DecidableEq, Inhabited, Repr

/-- The width in bytes. -/
def IntWidth.bytes : IntWidth → Nat
  | w8 => 1
  | w16 => 2
  | w32 => 4
  | w64 => 8
  | w128 => 16

/-- The width in bits, as type names say it. -/
def IntWidth.bits : IntWidth → String
  | w8 => "8"
  | w16 => "16"
  | w32 => "32"
  | w64 => "64"
  | w128 => "128"

/-- The primitive types. -/
inductive Primitive where
  | unit
  | bool
  | integer (signed : Bool) (width : IntWidth)
  | char
  | string
  | bytes
  deriving DecidableEq, Inhabited, Repr

namespace Primitive

/-- All primitive types. -/
def all : List Primitive :=
  [unit, bool,
    integer true .w8, integer true .w16, integer true .w32, integer true .w64, integer true .w128,
    integer false .w8, integer false .w16, integer false .w32, integer false .w64,
    integer false .w128, char, string, bytes]

/-- The name of the type in a schema. -/
def formatName : Primitive → String
  | unit => "UNIT"
  | bool => "BOOL"
  | integer true w => "I" ++ w.bits
  | integer false w => "U" ++ w.bits
  | char => "CHAR"
  | string => "STR"
  | bytes => "BYTES"

/-- The name of the Solidity type, which is also the key of the shape. -/
def key : Primitive → String
  | unit => "empty_struct"
  | bool => "bool"
  | integer true w => "int" ++ w.bits
  | integer false w => "uint" ++ w.bits
  | char => "bytes1"
  | string => "string"
  | bytes => "bytes"

/-- The number of bytes on the wire, where it is fixed. -/
def width? : Primitive → Option Nat
  | unit => some 0
  | bool => some 1
  | integer _ w => some w.bytes
  | char => some 1
  | string => none
  | bytes => none

/-- Whether the type is a signed integer. -/
def isSigned : Primitive → Bool
  | integer signed _ => signed
  | _ => false

/-- Whether the type is an integer. -/
def isInteger : Primitive → Bool
  | integer .. => true
  | _ => false

/-- Whether Solidity keeps values of the type in memory. -/
def needsMemory : Primitive → Bool
  | unit | string | bytes => true
  | _ => false

/-- The Solidity type of the same width without sign. -/
def unsignedKey : Primitive → String
  | integer _ w => (integer false w).key
  | p => p.key

/-- The primitive type of the given schema name. -/
def ofFormatName? (name : String) : Option Primitive :=
  all.find? fun p => p.formatName == name

/-- Every primitive type is listed. -/
theorem mem_all (p : Primitive) : p ∈ all := by
  cases p with
  | integer signed width => cases signed <;> cases width <;> decide
  | _ => decide

/-- Schema names are read back. -/
theorem ofFormatName?_formatName (p : Primitive) : ofFormatName? p.formatName = some p := by
  cases p with
  | integer signed width => cases signed <;> cases width <;> decide
  | _ => decide

end Primitive

end SolidityWire
