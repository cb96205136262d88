/-
Bounds that are kept in all of the program: an input that goes beyond one of them may be well-formed
but has no result.
-/

namespace SolidityWire

/-- What there may be too much of. -/
inductive Limit where
  /-- The digits of a decimal numeral. -/
  | digits
  /-- Things inside one another. -/
  | nesting
  deriving DecidableEq, Inhabited, Repr

/-- The words for going beyond a bound. -/
def Limit.message : Limit → String
  | digits => "A number has too many digits"
  | nesting => "Things are nested too deep"

/-- How many collections of a text may stand inside one another. -/
def Limit.collections : Nat := 489

/-- How many formats may stand inside one another. -/
def Limit.formats : Nat := 980

/-- How many functions of a codec may call each other, where shapes lead back to themselves. -/
def Limit.calls : Nat := 988

end SolidityWire
