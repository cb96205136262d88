/-
Floating-point numbers with a given number of digits: so many places behind the point, or so many
significant ones. The nearest such decimal is written, a tie goes to the even digit.
-/
import SolidityWire.Decimal.Shortest

namespace SolidityWire.Decimal

/-- The value `m * 2 ^ e` as a fraction. -/
def fraction (m : Nat) (e : Int) : Nat × Nat :=
  if e < 0 then (m, 2 ^ (-e).toNat) else (m * 2 ^ e.toNat, 1)

/-- The decimal digits of a number, filled up with zeros in front to a width. -/
def paddedDigits (width n : Nat) : List Char :=
  let ds := Nat.toDigits 10 n
  List.replicate (width - ds.length) '0' ++ ds

/-- The digits before and behind the point, with `places` behind it. -/
def fixedDigits (places m : Nat) (e : Int) : List Char × List Char :=
  let (num, den) := fraction m e
  let ds := paddedDigits (places + 1) (Binary64.roundDiv (num * 10 ^ places) den)
  (ds.take (ds.length - places), ds.drop (ds.length - places))

/-- Whether `num / den` is at least `10 ^ p`. -/
def reaches (num den : Nat) (p : Int) : Bool :=
  if p < 0 then den ≤ num * 10 ^ (-p).toNat else den * 10 ^ p.toNat ≤ num

/-- The greatest power of ten that is at most `num / den`, at or below `10 ^ p`. -/
def decimalFloor (num den : Nat) : (steps : Nat) → (p : Int) → Int
  | 0, p => p
  | steps + 1, p => if reaches num den p then p else decimalFloor num den steps (p - 1)

/-- The first digit, `places` further ones, and the power of ten of the first. -/
def exponentDigits (places m : Nat) (e : Int) : List Char × List Char × Int :=
  if m = 0 then (['0'], List.replicate places '0', 0)
  else
    let (num, den) := fraction m e
    let p := decimalFloor num den 700 ((Nat.toDigits 10 num).length - 1)
    let shift := p - places
    let n :=
      if shift < 0 then Binary64.roundDiv (num * 10 ^ (-shift).toNat) den
      else Binary64.roundDiv num (den * 10 ^ shift.toNat)
    let (n, p) := if n < 10 ^ (places + 1) then (n, p) else (n / 10, p + 1)
    let ds := paddedDigits (places + 1) n
    (ds.take 1, ds.drop 1, p)

end SolidityWire.Decimal
