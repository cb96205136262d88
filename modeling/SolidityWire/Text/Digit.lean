/-
Decimal digits of all scripts. The ten digits of a script stand side by side in the order of their
values, so that its zero says where they are.
-/
import SolidityWire.Text.Ranges

namespace SolidityWire.Text

/-- The zeros of all scripts, in ascending order. -/
def zeros : Array Nat := #[
  48, 1632, 1776, 1984, 2406, 2534, 2662, 2790, 2918, 3046, 3174, 3302, 3430, 3558, 3664, 3792,
  3872, 4160, 4240, 6112, 6160, 6470, 6608, 6784, 6800, 6992, 7088, 7232, 7248, 42528, 43216, 43264,
  43472, 43504, 43600, 44016, 65296, 66720, 68912, 69734, 69872, 69942, 70096, 70384, 70736, 70864,
  71248, 71360, 71472, 71904, 72016, 72784, 73040, 73120, 92768, 92864, 93008, 120782, 120792,
  120802, 120812, 120822, 123200, 123632, 125264, 130032]

/-- The value of a decimal digit of any script. -/
def digitValue? (c : Char) : Option Nat :=
  match zeros[boundsBelow zeros c.toNat zeros.size 0 zeros.size - 1]? with
  | some first => if first ≤ c.toNat ∧ c.toNat < first + 10 then some (c.toNat - first) else none
  | none => none

/-- Whether the character is a decimal digit of any script. -/
def isDigit (c : Char) : Bool :=
  (digitValue? c).isSome

end SolidityWire.Text
