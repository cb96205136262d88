/-
The tags of YAML's core: a tag says what kind of value a node has.
-/

namespace SolidityWire.Yaml

/-- The full name of a core tag. -/
def coreTag (name : String) : String :=
  "tag:yaml.org,2002:" ++ name

/-- The tag of truth values. -/
def boolTag : String := coreTag "bool"

/-- The tag of whole numbers. -/
def intTag : String := coreTag "int"

/-- The tag of floating-point numbers. -/
def floatTag : String := coreTag "float"

/-- The tag of null. -/
def nullTag : String := coreTag "null"

/-- The tag of dates and moments. -/
def timestampTag : String := coreTag "timestamp"

/-- The tag of texts. -/
def textTag : String := coreTag "str"

/-- The tag of byte strings. -/
def binaryTag : String := coreTag "binary"

/-- The tag of sequences. -/
def sequenceTag : String := coreTag "seq"

/-- The tag of mappings. -/
def mappingTag : String := coreTag "map"

/-- The tag of sets. -/
def setTag : String := coreTag "set"

/-- The tag of ordered mappings. -/
def orderedTag : String := coreTag "omap"

/-- The tag of lists of pairs. -/
def pairsTag : String := coreTag "pairs"

/-- The tag of the key that merges other mappings into one. -/
def mergeTag : String := coreTag "merge"

/-- The tag of the key of a default value. -/
def defaultTag : String := coreTag "value"

/-- The tag of YAML's own signs. -/
def signTag : String := coreTag "yaml"

end SolidityWire.Yaml
