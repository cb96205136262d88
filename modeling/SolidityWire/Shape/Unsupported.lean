/-
Why a schema cannot be expressed in Solidity, and the words for it.
-/
import SolidityWire.Limit
import SolidityWire.Schema.Basic
import SolidityWire.Text.Quoted

namespace SolidityWire

/-- A construct that has no Solidity type, or whose type has no name because of a number in it. -/
inductive Unsupported where
  | floatingPoint
  | unknownPrimitive (name : String)
  | variableFormat
  | variableVariant (payload : String)
  | emptyTuple
  | unitStruct (name : String)
  | emptyTupleStruct (name : String)
  | emptyStruct (name : String)
  | emptyEnum (name : String)
  | emptyVariant (payload : String)
  | collidingFields (name : String) (fields : List String)
  | collidingPayloads (name : String) (fields : List String)
  | clashingKey (key : String)
  | beyond (l : Limit)
  deriving DecidableEq, Inhabited, Repr

namespace Unsupported

/-- A list of names as a message shows it. -/
def namesLiteral (names : List String) : String :=
  "[" ++ ", ".intercalate (names.map Text.quoted) ++ "]"

/-- The words for an unsupported construct. -/
def message : Unsupported → String
  | floatingPoint => "Floating point is not supported in Solidity"
  | unknownPrimitive name => "Unknown primitive format: " ++ name
  | variableFormat => "Variable formats are not supported in Solidity"
  | variableVariant payload =>
    "Variable variants are not supported in Solidity (" ++ payload ++ ")"
  | emptyTuple => "Empty tuples are not supported in Solidity"
  | unitStruct name => "UnitStruct " ++ name ++ " is not supported in Solidity"
  | emptyTupleStruct name => "The TupleStruct " ++ name ++ " should be non-trivial in Solidity"
  | emptyStruct name => "The struct " ++ name ++ " should be non-trivial in Solidity"
  | emptyEnum name => "The enum " ++ name ++ " should be non-trivial in Solidity"
  | emptyVariant payload => "The variant " ++ payload ++ " should be non-trivial in Solidity"
  | collidingFields name fields =>
    name ++ " has colliding field names: " ++ namesLiteral fields
  | collidingPayloads name fields =>
    name ++ " has colliding variant field names: " ++ namesLiteral fields
  | clashingKey key =>
    "Two different types would be emitted under the name " ++ Text.quoted key
  | beyond l => l.message

end Unsupported

/-- The primitive type of a format name, or the reason that Solidity has none for it. -/
def Primitive.ofFormatName (name : String) : Except Unsupported Primitive :=
  match Format.ofName? name with
  | some (.primitive p) => .ok p
  | some _ => .error .floatingPoint
  | none => .error (.unknownPrimitive name)

end SolidityWire
