/-
Choices that no variant has: the error that is raised for one, with the words that the key of the
tagged enumeration gives it. The formulas in a key see the choice and, in encoding, the value.
-/
import SolidityWire.Codec.Field

namespace SolidityWire.Codec

open Formula

/-- The class of errors of encoding. -/
def encodeErrorClass : Value :=
  classValue "solbcs.errors.BcsEncodeError"

/-- The class of errors of decoding. -/
def decodeErrorClass : Value :=
  classValue "solbcs.errors.BcsDecodeError"

/-- The reason that a raised error is. -/
def ofRaised (className words : String) : CodecError :=
  match lastPart className with
  | "BcsEncodeError" => .encode (.noSuchVariant words)
  | "BcsDecodeError" => .decode (.noSuchVariant words)
  | other => .misuse (.raised other)

/-- A generated type as a value. -/
def typeValue (key : String) : GeneratedType → Value
  | .record _ => classValue ("types." ++ Text.asciiName key)
  | .enum _ => .foreign ("<enum '" ++ Text.asciiName key ++ "'>") "enum.EnumType"

/-- The generated types under their keys. -/
def typeValues (c : Codec) : Value :=
  .dict (c.table.shapes.filterMap fun s =>
    match GeneratedType.ofShape? s with
    | some (.ok t) => some (.text s.key, typeValue s.key t)
    | _ => none)

/-- What formulas know in a codec whose refusals are of a class of errors. -/
def setting (c : Codec) (errorClass : Value) (later : List String) : Setting where
  later := later
  shared := [(Refusal.errorName, errorClass), ("BcsEncodeError", encodeErrorClass),
    ("BcsDecodeError", decodeErrorClass), ("_types", c.typeValues)]
  field := c.fieldOf

/-- The reason that a refusal raises. -/
def refusal (key : String) (s : Setting) (given : List (String × Value)) : CodecError :=
  match (do (← Refusal.ofKey key).raise s given) with
  | .ok (className, words) => ofRaised className words
  | .error m => .misuse m

/-- Why a value with a choice is not encoded. -/
def encodeRefusal (c : Codec) (key : String) (v choice : Value) : CodecError :=
  let encoder := Value.foreign "<encoder>" "solbcs.encoding.bcs.BcsEncoder"
  refusal key (c.setting encodeErrorClass [])
    [("encoder", encoder), ("value", v), ("choice", choice)]

/-- Why a value with a choice is not decoded; fields are only collected behind the choice. -/
def decodeRefusal (c : Codec) (key : String) (choice : Nat) : CodecError :=
  let decoder := Value.foreign "<decoder>" "solbcs.encoding.bcs.BcsDecoder"
  refusal key (c.setting decodeErrorClass ["_fields"])
    [("decoder", decoder), ("choice", .integer choice)]

end SolidityWire.Codec
