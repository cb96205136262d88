/-
The field names of generated records: words that are reserved where the records are used get an
underscore.
-/
import SolidityWire.Formula.Token

namespace SolidityWire.Codec

/-- The field name for a name of the schema. -/
def fieldName (name : String) : String :=
  if Formula.keywords.contains name then name ++ "_" else name

end SolidityWire.Codec
