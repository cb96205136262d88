/-
Schemas: the formats of values, the variants of enumerations, and the named containers that a
registry lists.
-/
import SolidityWire.Schema.Primitive

namespace SolidityWire

/-- The format of a value. Floating-point formats and variables can be written in a registry but
not be lowered. -/
inductive Format where
  | primitive (p : Primitive)
  | float32
  | float64
  | variable (name : String)
  | typeName (name : String)
  | option (content : Format)
  | sequence (content : Format)
  | map (key value : Format)
  | tuple (contents : List Format)
  | array (content : Format) (size : Nat)
  deriving Inhabited, Repr

/-- What an enumeration's variant carries. -/
inductive VariantFormat where
  | unit
  | newType (content : Format)
  | tuple (contents : List Format)
  | struct (fields : List (String × Format))
  | variable (name : String)
  deriving Inhabited, Repr

/-- A variant of an enumeration, with the index that the registry declares for it. -/
structure IndexedVariant where
  index : Int
  name : String
  format : VariantFormat
  deriving Inhabited, Repr

/-- What a registry declares under a name; the variants of an enumeration are in the order of
their indices. -/
inductive Container where
  | unitStruct
  | newTypeStruct (content : Format)
  | tupleStruct (contents : List Format)
  | struct (fields : List (String × Format))
  | enum (variants : List IndexedVariant)
  deriving Inhabited, Repr

/-- Named containers, in order. -/
abbrev Registry := List (String × Container)

/-- The format of a primitive name, floating-point ones included. -/
def Format.ofName? (name : String) : Option Format :=
  if name = "F32" then some .float32
  else if name = "F64" then some .float64
  else (Primitive.ofFormatName? name).map .primitive

/-- Whether the variant carries nothing. -/
def VariantFormat.isUnit : VariantFormat → Bool
  | .unit => true
  | _ => false

end SolidityWire
