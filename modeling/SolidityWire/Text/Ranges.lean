/-
Sets of characters given by the bounds of their ranges: membership is the parity of the number of
bounds at or below the character.
-/

namespace SolidityWire.Text

/-- Number of entries of the ascending array that are at or below `n`, between `lo` and `hi`. -/
def boundsBelow (bounds : Array Nat) (n : Nat) : (steps lo hi : Nat) → Nat
  | 0, lo, _ => lo
  | steps + 1, lo, hi =>
    if lo < hi then
      let mid := (lo + hi) / 2
      if bounds.getD mid 0 ≤ n then boundsBelow bounds n steps (mid + 1) hi
      else boundsBelow bounds n steps lo mid
    else lo

/-- Whether the character lies in one of the half-open ranges that the ascending bounds delimit. -/
def inRanges (bounds : Array Nat) (c : Char) : Bool :=
  boundsBelow bounds c.toNat bounds.size 0 bounds.size % 2 == 1

end SolidityWire.Text
