/-
The fields of values under a codec: members of enumerations have their own, then what their
enumeration has under a name, then what numbers have.
-/
import SolidityWire.Codec.Access
import SolidityWire.Codec.Basic

namespace SolidityWire.Codec

/-- The value of a field of a member: its own name and ordinal, then what its enumeration has under
the name, then what numbers have. -/
def memberField? (t : EnumType) (key memberName : String) (ordinal : Nat) (name : String) :
    Option Value :=
  match name with
  | "name" | "_name_" => some (.text memberName)
  | "value" | "_value_" => some (.integer ordinal)
  | "_sort_order_" => some (.integer (t.members.findIdx fun (other, _) => other = memberName))
  | name =>
    match t.named? name with
    | some (true, n) => some (.member key name n)
    | some (false, n) => some (.integer n)
    | none => (Value.member key memberName ordinal).field? name

/-- The value of a field, or the reason that there is none. What is not found is asked of an operation
of the value, and a record may have a field in its place. -/
def fieldOf (c : Codec) (v : Value) (name : String) : Except Misuse Value :=
  let found := match v with
    | .member key memberName ordinal =>
      memberField? ((c.enumOf? key).getD {}) key memberName ordinal name
    | v => v.field? name
  if v.isSealed then .error .wrongType
  else
    match found with
    | some x => .ok x
    | none => .error (if v.lacks "__getattr__" then .wrongType else .noField)

/-- The value of a field, or the reason that there is none. -/
def getField (c : Codec) (v : Value) (name : String) : Except CodecError Value :=
  (c.fieldOf v name).mapError .misuse

end SolidityWire.Codec
