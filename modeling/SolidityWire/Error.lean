/-
Why a registry gives no library and no codec: one cause for each way to fail, and the words for it.
-/
import SolidityWire.Schema.Fault
import SolidityWire.Shape.Unsupported
import SolidityWire.Yaml.Fault

namespace SolidityWire

/-- What in a configuration cannot be honoured. -/
inductive ConfigConflict where
  | badModuleName (name : String)
  | cStyleEnums
  | unsupportedEncodings (names : List String)
  deriving DecidableEq, Inhabited, Repr

/-- The words for a conflict. -/
def ConfigConflict.message : ConfigConflict → String
  | badModuleName name =>
    "Module name " ++ Text.quoted name ++ " is not a valid Solidity library name"
  | cStyleEnums => "Solidity does not support generating c-style enums"
  | unsupportedEncodings names =>
    "Solidity only supports the bcs encoding (requested: " ++ ", ".intercalate names ++ ")"

/-- Why a single shape cannot be written; no shape of a registry's table is of this kind. -/
inductive Unwritable where
  | reference
  | emptyStruct
  | payloadWithoutField
  deriving DecidableEq, Inhabited, Repr

/-- The words for a shape that cannot be written. -/
def Unwritable.message : Unwritable → String
  | reference => "A reference has no declaration of its own"
  | emptyStruct => "A struct needs a field"
  | payloadWithoutField => "What a variant carries needs a field"

/-- A cause of failure. -/
inductive Error where
  | unsupported (u : Unsupported)
  | cyclic
  | unresolved (name : String)
  | conflict (c : ConfigConflict)
  | malformed (f : SchemaFault)
  | unreadable (f : Yaml.ContentFault)
  | unwritable (u : Unwritable)
  | beyond (l : Limit)
  deriving Inhabited

/-- The words for a failure. -/
def Error.message : Error → String
  | unsupported u => u.message
  | cyclic => "Solidity does not allow for circular dependencies"
  | unresolved name => "No entry found for type name " ++ Text.quoted name
  | conflict c => c.message
  | malformed f => f.message
  | unreadable f => f.message
  | unwritable u => u.message
  | beyond l => l.message

/-- The failure that a fault of a document is. -/
def Error.ofFault (fault : SchemaFault) : Error :=
  match fault.limit? with
  | some l => .beyond l
  | none => .malformed fault

/-- The failure that an unsupported construct is. -/
def Error.ofUnsupported : Unsupported → Error
  | .beyond l => .beyond l
  | u => .unsupported u

/-- The failure of a text that gives no document. -/
def Error.ofYaml : Yaml.Fault → Error
  | .violation _ => .malformed .invalidYaml
  | .content f => .unreadable f

end SolidityWire
