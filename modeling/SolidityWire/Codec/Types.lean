/-
The types that are generated for shapes: records with named fields, and enumerations with named
members.
-/
import SolidityWire.Codec.EnumType
import SolidityWire.Codec.RecordType
import SolidityWire.Shape.Table

namespace SolidityWire.Codec

/-- A generated type. -/
inductive GeneratedType where
  | record (t : RecordType)
  | enum (t : EnumType)
  deriving Inhabited

/-- Whether an option needs a flag of its own because what it holds can be null. -/
def isBoxed : Shape → Bool
  | .option (.option _) => true
  | .option (.primitive .unit) => true
  | _ => false

namespace GeneratedType

/-- A record as a generated type, or what keeps it from being made. -/
def ofRecord (t : RecordType) : Except Misuse GeneratedType :=
  match t.fault? with
  | some m => .error m
  | none => .ok (.record t)

/-- The record of a struct. -/
def structRecord (key : String) (fields : List (String × Shape)) : RecordType where
  fields := fields.map fun (name, _) => requiredField key (fieldName name)

/-- The record of an option with a flag. -/
def boxRecord : RecordType where
  fields := [⟨"has_value", none⟩, ⟨"value", some .null⟩]

/-- The record of an array. -/
def arrayRecord : RecordType where
  fields := [⟨"values", none⟩]

/-- The record of a tagged enumeration: the choice, and a field for each variant that has one. -/
def taggedRecord (key : String) (variants : List (String × Option String × Option Shape)) :
    RecordType where
  fields := ⟨"choice", none⟩ ::
    (Shape.payloadFields variants).map fun name => optionalField key (fieldName name)
  hasOwnDefaults := true

/-- The type that is generated for a shape, if there is one, or what keeps it from being made. -/
def ofShape? (s : Shape) : Option (Except Misuse GeneratedType) :=
  match s with
  | .struct key fields => some (ofRecord (structRecord key fields))
  | .option _ => if isBoxed s then some (ofRecord boxRecord) else none
  | .array .. => some (ofRecord arrayRecord)
  | .simpleEnum key names =>
    some (GeneratedType.enum <$> EnumType.ofNames (Text.asciiName key) names)
  | .taggedEnum key variants => some (ofRecord (taggedRecord key variants))
  | .primitive _ | .reference _ | .sequence _ => none

end GeneratedType

end SolidityWire.Codec
