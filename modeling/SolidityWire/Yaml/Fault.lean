/-
Why a text gives no value: it is not YAML, or it is YAML whose content has no value.
-/
import SolidityWire.Limit

namespace SolidityWire.Yaml

/-- What in a text breaks the rules of YAML, the known tags among them. -/
inductive Violation where
  | unprintable
  | missingColon
  | entryNotAllowed
  | keyNotAllowed
  | valueNotAllowed
  | noToken
  | badDirective
  | badAnchor
  | badTag
  | badHeader
  | unclosedQuote
  | badEscape
  | unexpectedToken
  | repeatedDirective
  | badVersion
  | undefinedHandle (handle : String)
  | undefinedAlias (name : String)
  | repeatedAnchor (name : String)
  | severalDocuments
  | unknownTag (tag : String)
  | wrongKind (tag : String)
  | unhashableKey
  | badMerge
  | badBinary
  deriving DecidableEq, Inhabited, Repr

/-- What in the content of a YAML text has no value. -/
inductive ContentFault where
  | codeTooLarge
  | codeOverflow
  | weightOverflow
  | badNumber
  | emptyNumber
  | badBoolean
  | badTimestamp
  | timestampNotScalar
  | impossibleTime
  | beyond (l : Limit)
  deriving DecidableEq, Inhabited, Repr

/-- The words for content without a value. -/
def ContentFault.message : ContentFault → String
  | codeTooLarge => "An escape has a code beyond the last character"
  | codeOverflow => "An escape has a code that is no character's at all"
  | weightOverflow => "A number to the base sixty has too many parts"
  | badNumber => "A number cannot be read"
  | emptyNumber => "A number has no digits"
  | badBoolean => "A truth value cannot be read"
  | badTimestamp => "A timestamp cannot be read"
  | timestampNotScalar => "A timestamp is not written as a scalar"
  | impossibleTime => "A timestamp is not in the calendar"
  | beyond l => l.message

/-- Why a text gives no value. -/
inductive Fault where
  | violation (v : Violation)
  | content (f : ContentFault)
  deriving DecidableEq, Inhabited, Repr

/-- The failure of a computation at a violation. -/
def refuse {α : Type} (v : Violation) : Except Fault α :=
  .error (.violation v)

end SolidityWire.Yaml
