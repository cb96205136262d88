/-
What scalars say: the tag that the form of a plain scalar gives it, and the value of a text under a
tag.
-/
import SolidityWire.Yaml.Scalar.Bytes
import SolidityWire.Yaml.Scalar.Number
import SolidityWire.Yaml.Scalar.Time
import SolidityWire.Yaml.Tag

namespace SolidityWire.Yaml

/-! ## Tags by form -/

/-- The text without a line feed at its end, which forms do not look at. -/
def withoutFinalFeed (cs : List Char) : List Char :=
  if cs.getLast? = some '\n' then cs.dropLast else cs

/-- The tag of a scalar that says no tag: the first whose form the text has. -/
def implicitTag (text : String) : String :=
  let cs := withoutFinalFeed text.toList
  let word := String.ofList cs
  if cs.isEmpty && !text.isEmpty then textTag
  else if boolWords.contains word then boolTag
  else if isFloatForm cs then floatTag
  else if isIntForm cs then intTag
  else if word = "<<" then mergeTag
  else if nullWords.contains word then nullTag
  else if isTimestampForm cs then timestampTag
  else if word = "=" then defaultTag
  else if word = "!" || word = "&" || word = "*" then signTag
  else textTag

/-! ## Values -/

/-- The truth value of a word in any case. -/
def boolOf (text : String) : Except Fault Bool :=
  let word := String.ofList (text.toList.map Char.toLower)
  if ["yes", "true", "on"].contains word then .ok true
  else if ["no", "false", "off"].contains word then .ok false
  else .error (.content .badBoolean)

/-- The value of a text under a tag. -/
def scalarValue (tag text : String) : Except Fault Value :=
  if tag = textTag then .ok (.text text)
  else if tag = nullTag then .ok .null
  else if tag = boolTag then (boolOf text).map .boolean
  else if tag = intTag then (intOf text).map .integer
  else if tag = floatTag then (floatOf text).map .float
  else if tag = timestampTag then timestampOf (withoutFinalFeed text.toList)
  else if tag = binaryTag then (bytesOf text.toList).map .bytes
  else if [sequenceTag, mappingTag, setTag, orderedTag, pairsTag].contains tag then
    refuse (.wrongKind tag)
  else refuse (.unknownTag tag)

/-- Whether values under the tag are written by scalars. -/
def isScalarTag (tag : String) : Bool :=
  [textTag, nullTag, boolTag, intTag, floatTag, timestampTag, binaryTag].contains tag

end SolidityWire.Yaml
