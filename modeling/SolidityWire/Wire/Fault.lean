/-
Why a value has no encoding and why bytes are not the encoding of a value, and the words for it.
-/
import SolidityWire.Schema.Primitive
import SolidityWire.Text.Utf8
import SolidityWire.Value.Shown

namespace SolidityWire

/-- Why a value cannot be encoded. -/
inductive EncodeError where
  | negativeLength (length : Value)
  | lengthNotWhole (length : Value)
  | notInteger (signed : Bool) (width : IntWidth) (v : Value)
  | outOfRange (signed : Bool) (width : IntWidth) (n : Int)
  | notBool (v : Value)
  | notText (v : Value)
  | noEncoding (v : Value)
  | notBytes (v : Value)
  | charOutOfRange (n : Int)
  | charNotOneByte
  | charNotOneCharacter
  | notChar (v : Value)
  | notMember (v : Value) (enumName : String)
  | noSuchVariant (words : String)
  | wrongArraySize (expected : Int) (actual : Nat)
  deriving Inhabited

/-- The words for a value that cannot be encoded; the widest integers are called by their width. -/
def EncodeError.message : EncodeError → String
  | negativeLength length => "Lengths cannot be negative: " ++ length.display
  | lengthNotWhole length => "Lengths are whole numbers: " ++ length.display
  | notInteger _ .w128 v => "Expected an integer, got " ++ v.literal
  | notInteger signed width v =>
    "Expected an integer for " ++ (Primitive.integer signed width).key ++ ", got " ++ v.literal
  | outOfRange _ .w128 n => toString n ++ " is out of range for a 128-bit integer"
  | outOfRange signed width n =>
    toString n ++ " is out of range for " ++ (Primitive.integer signed width).key
  | notBool v => "Expected a bool, got " ++ v.literal
  | notText v => "Expected a str, got " ++ v.literal
  | noEncoding v => "A text with half of a surrogate pair has no encoding: " ++ v.literal
  | notBytes v => "Expected bytes, got " ++ v.literal
  | charOutOfRange n => "Char value " ++ toString n ++ " does not fit in one byte"
  | charNotOneByte => "Byte values must contain exactly one byte"
  | charNotOneCharacter => "Char values must contain exactly one single-byte character"
  | notChar v => "Cannot convert value of type " ++ v.classLiteral ++ " to a char"
  | notMember v enumName => v.literal ++ " is not a valid " ++ enumName
  | noSuchVariant words => words
  | wrongArraySize expected actual =>
    "Fixed array size mismatch: expected " ++ toString expected ++ " elements, got " ++
      toString actual

/-- Why the words for a value that cannot be encoded cannot be told either: they show a value that
cannot be shown, or its class. -/
def EncodeError.fault? : EncodeError → Option Misuse
  | notInteger _ _ v | notBool v | notText v | notBytes v | notMember v _ => v.literalFault?
  | negativeLength v => v.displayFault?
  | outOfRange _ _ n | charOutOfRange n => if Text.isTooLong n then some .badValue else none
  | notChar v => if v.isSealed then some .wrongType else none
  | _ => none

/-- Why bytes are refused. -/
inductive DecodeError where
  | offsetOutside (offset : Int) (length : Nat)
  | endOfInput (position : Nat)
  | beforeStart (position : Int)
  | notEnough (requested position remaining : Int)
  | lengthOverflow
  | paddedLength
  | invalidBool (value position : Nat)
  | stringPastEnd (characters : Nat)
  | invalidUtf8 (data : List UInt8)
  | notMember (ordinal : Nat) (enumName : String)
  | noSuchVariant (words : String)
  | trailingBytes (count : Nat) (key : String)
  deriving DecidableEq, Inhabited, Repr

/-- The words for bytes that are refused. -/
def DecodeError.message : DecodeError → String
  | offsetOutside offset length =>
    "Offset " ++ toString offset ++ " is outside of the input (" ++ toString length ++ " bytes)"
  | endOfInput position => "Unexpected end of input at offset " ++ toString position
  | beforeStart position => "No byte at offset " ++ toString position
  | notEnough requested position remaining =>
    "Unexpected end of input: " ++ toString requested ++ " bytes requested at offset " ++
      toString position ++ ", " ++ toString remaining ++ " remaining"
  | lengthOverflow => "Length prefix overflows 64 bits"
  | paddedLength => "Non-canonical length prefix"
  | invalidBool value position =>
    "Invalid bool value " ++ toString value ++ " at offset " ++ toString position
  | stringPastEnd characters =>
    "String of " ++ toString characters ++ " characters runs past the end of the input"
  | invalidUtf8 data =>
    "Invalid UTF-8 string: " ++ ((Text.Utf8.fault? 0 data).map Text.Utf8.Fault.message).getD ""
  | notMember ordinal enumName => toString ordinal ++ " is not a valid " ++ enumName
  | noSuchVariant words => words
  | trailingBytes count key =>
    "incomplete deserialization: " ++ toString count ++ " trailing bytes after " ++ key

end SolidityWire
