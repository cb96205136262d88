/-
Generated records: named fields, some of which need not be given. A type has attributes of its own,
and a field that is called like one of them takes its value where none is given.
-/
import SolidityWire.Codec.EnumType
import SolidityWire.Codec.FieldName
import SolidityWire.Text.AsciiName
import SolidityWire.Text.Compatible
import SolidityWire.Value.Basic

namespace SolidityWire.Codec

/-- A field of a record, with its value where none is given if it need not be. -/
structure RecordField where
  name : String
  default? : Option Value := none
  deriving Inhabited

/-- A record: its fields, and whether those that need not be given are attributes of the type. -/
structure RecordType where
  fields : List RecordField
  hasOwnDefaults : Bool := false
  deriving Inhabited

/-! ## Attributes of types -/

/-- Operations that each type writes for its values and that all of them have. -/
def wrappedNames : List String :=
  ["__delattr__", "__eq__", "__ge__", "__getattribute__", "__gt__", "__hash__", "__init__",
    "__le__", "__lt__", "__ne__", "__repr__", "__setattr__", "__str__"]

/-- Operations that all values have alike. -/
def sharedNames : List String :=
  ["__dir__", "__format__", "__getstate__", "__reduce__", "__reduce_ex__", "__sizeof__"]

/-- Operations of types themselves. -/
def builtInNames : List String :=
  ["__init_subclass__", "__instancecheck__", "__new__", "__prepare__", "__subclasscheck__",
    "__subclasses__", "__subclasshook__", "mro"]

/-- Operators on types. -/
def operatorNames : List String :=
  ["__call__", "__or__", "__ror__"]

/-- The attributes of a type that say how it is laid out or where it stands among types. Its flags say
too that something has been looked up in it before. -/
def typeAttribute? (typeName name : String) : Option Value :=
  let object := Value.foreign "<class 'object'>" "type"
  match name with
  | "__base__" => some object
  | "__bases__" => some (.tuple [object])
  | "__basicsize__" => some (.integer 24)
  | "__class__" => some (.foreign "<class 'type'>" "type")
  | "__dataclass_params__" =>
    some (.foreign ("_DataclassParams(init=True,repr=True,eq=True,order=False,unsafe_hash=False," ++
      "frozen=False)") "dataclasses._DataclassParams")
  | "__dictoffset__" => some (.integer (-48))
  | "__flags__" => some (.integer 546320)
  | "__itemsize__" => some (.integer 0)
  | "__mro__" =>
    some (.tuple [.foreign ("<class 'types." ++ typeName ++ "'>") "type", object])
  | "__name__" => some (.text typeName)
  | "__weakrefoffset__" => some (.integer 16)
  | _ => none

/-- The value of a type's attribute, if it has one of the name. -/
def attribute? (key name : String) : Option Value :=
  let typeName := Text.asciiName key
  match typeAttribute? typeName name with
  | some v => some v
  | none =>
    if wrappedNames.contains name then
      some (.foreign ("<slot wrapper '" ++ name ++ "' of 'object' objects>") "wrapper_descriptor")
    else if sharedNames.contains name then
      some (.foreign ("<method '" ++ name ++ "' of 'object' objects>") "method_descriptor")
    else if builtInNames.contains name then
      some (.foreign ("<built-in method " ++ name ++ " of type object>")
        "builtin_function_or_method")
    else if operatorNames.contains name then
      some (.foreign ("<method-wrapper '" ++ name ++ "' of type object>") "method-wrapper")
    else
      match name with
      | "__doc__" | "__text_signature__" => some .null
      | "__module__" => some (.text "types")
      | "__qualname__" => some (.text typeName)
      | "__shape_key__" => some (.text key)
      | "__weakref__" =>
        some (.foreign ("<attribute '__weakref__' of '" ++ typeName ++ "' objects>")
          "getset_descriptor")
      | _ => none

/-- A field that has to be given, unless it is called like an attribute of the type. -/
def requiredField (key name : String) : RecordField :=
  ⟨name, attribute? key name⟩

/-- A field that is null where it is not given, unless its name says something else of the type. -/
def optionalField (key name : String) : RecordField :=
  ⟨name, some ((typeAttribute? (Text.asciiName key) name).getD .null)⟩

namespace RecordType

/-! ## Well-formed types -/

/-- The names of the fields. -/
def names (t : RecordType) : List String :=
  t.fields.map RecordField.name

/-- Whether the type has a field of the name. -/
def hasField (t : RecordType) (name : String) : Bool :=
  t.names.contains name

/-- What a record itself is called among its fields. -/
def ownName (names : List String) : String :=
  if names.contains "self" then "__dataclass_self__" else "self"

/-- Whether the names in their compatible forms can be those of parameters. -/
def areParameters (names : List String) : Bool :=
  let forms := (ownName names :: names).map Text.compatible
  forms.Nodup && !forms.contains "__debug__"

/-- Why the type cannot be made: its fields have to be different identifiers in their compatible
form, and none may be called like what a type has for itself. -/
def fault? (t : RecordType) : Option Misuse :=
  let names := t.names
  if !names.all Text.isIdentifier || !decide names.Nodup then some .wrongType
  else if t.hasOwnDefaults && spoilingNames.any t.hasField then some .wrongType
  else if t.hasField "__annotations__" || t.hasField "__dict__" then some .badValue
  else if !areParameters names then some .illFormed
  else if names.any fun name => Text.compatible name ≠ name then some .wrongType
  else none

/-! ## Records -/

/-- The fields whose defaults keep a type from making records. -/
def makerFields : List String :=
  ["__init__", "__new__", "__post_init__", "__setattr__"]

/-- Whether no field of a record can be read: one of them stands in the place of the operation that
reads fields. -/
def isSealed (t : RecordType) : Bool :=
  t.hasOwnDefaults && t.hasField "__getattribute__"

/-- What a field has against being set. -/
def obstacleOf (name : String) : Option Misuse :=
  match name with
  | "__class__" => some .wrongType
  | "__weakref__" => some .noField
  | _ => none

/-- Why no record of the type can be made. -/
def obstacle? (t : RecordType) : Option Misuse :=
  if t.hasOwnDefaults then
    if makerFields.any t.hasField then some .wrongType else none
  else t.names.findSome? obstacleOf

/-- The values of the fields in their order, from those that are given. -/
def fill (given : List (String × Value)) :
    List RecordField → Except Misuse (List (String × Value))
  | [] => .ok []
  | field :: rest => do
    match given.lookup field.name, field.default? with
    | some v, _ => return (field.name, v) :: (← fill given rest)
    | none, some v => return (field.name, v) :: (← fill given rest)
    | none, none => throw .wrongType

/-- A record with the given values; none may be given to a field that the type does not have. -/
def make (t : RecordType) (key : String) (given : List (String × Value)) : Except Misuse Value :=
  if given.all fun (name, _) => t.hasField name then do
    -- All values are at hand before the first is set, so a missing one is found before an obstacle.
    let fields ← fill given t.fields
    match t.obstacle? with
    | some m => throw m
    | none => return .record key fields t.hasOwnDefaults
  else .error .wrongType

end RecordType

end SolidityWire.Codec
