/-
The shortest decimal that reads back as a given floating-point number. On coarser and then finer
decimal grids the two neighbours of the value are tested against the interval of reals that round
to it; the first grid with a hit wins, and of two hits the nearer one.
-/
import SolidityWire.Decimal.Binary64

namespace SolidityWire

/-! ## The decimal grid -/

/-- Compares `a * 10 ^ p` with `b * 2 ^ q` exactly. -/
def compareDecimal (a : Nat) (p : Int) (b : Nat) (q : Int) : Ordering :=
  compare (a * 10 ^ p.toNat * 2 ^ (-q).toNat) (b * 2 ^ q.toNat * 10 ^ (-p).toNat)

/-- The reals that round to `m * 2 ^ e`, as bounds in units of `2 ^ (e - 2)`; they belong to the
interval iff the mantissa is even. -/
def roundingBounds (m : Nat) (e : Int) : Nat × Nat :=
  (if m = 2 ^ 52 ∧ e > Binary64.leastExponent then 4 * m - 1 else 4 * m - 2, 4 * m + 2)

/-- Whether `c * 10 ^ p` rounds to `m * 2 ^ e`. -/
def readsBack (m : Nat) (e : Int) (c : Nat) (p : Int) : Bool :=
  let (lo, hi) := roundingBounds m e
  match compareDecimal c p lo (e - 2), compareDecimal c p hi (e - 2) with
  | .gt, .lt => true
  | .eq, _ => m % 2 == 0
  | _, .eq => m % 2 == 0
  | _, _ => false

/-- The whole part of `m * 2 ^ e / 10 ^ p`. -/
def gridFloor (m : Nat) (e p : Int) : Nat :=
  (m * 2 ^ e.toNat * 10 ^ (-p).toNat) / (2 ^ (-e).toNat * 10 ^ p.toNat)

/-- The neighbour of `m * 2 ^ e` on the grid of `10 ^ p` that rounds to it, the nearer if both do.
-/
def gridHit (m : Nat) (e p : Int) : Option Nat :=
  let c := gridFloor m e p
  match readsBack m e c p, readsBack m e (c + 1) p with
  | true, true =>
    -- the middle of the two neighbours decides; a tie goes to the even one
    match compareDecimal (2 * c + 1) p (2 * m) e with
    | .gt => some c
    | .lt => some (c + 1)
    | .eq => some (if c % 2 == 0 then c else c + 1)
  | true, false => some c
  | false, true => some (c + 1)
  | false, false => none

/-- The first hit on the grids `10 ^ p`, `10 ^ (p - 1)`, and so on. -/
def firstHit (m : Nat) (e : Int) : (steps : Nat) → (p : Int) → Nat × Int
  | 0, p => (gridFloor m e p, p)
  | steps + 1, p =>
    match gridHit m e p with
    | some c => (c, p)
    | none => firstHit m e steps (p - 1)

/-- A power of ten at or above the value `m * 2 ^ e`. -/
def decimalCeiling (m : Nat) (e : Int) : Int :=
  ((m.log2 : Int) + e + 1) * 30103 / 100000 + 1

/-- Digits and exponent of the shortest decimal that reads back as `m * 2 ^ e`. -/
def shortestDecimal (m : Nat) (e : Int) : Nat × Int :=
  firstHit m e 40 (decimalCeiling m e)

/-! ## Notation -/

/-- How a number is laid out: where the decimal point may stand, counted from the first digit, for
positional notation, and the least number of digits of an exponent. -/
structure NumberStyle where
  leastPoint : Int
  greatestPoint : Int
  exponentDigits : Nat

/-- Messages write numbers from `0.0001` up to below `10 ^ 16` by position. -/
def NumberStyle.message : NumberStyle := ⟨-3, 16, 2⟩

/-- The exponent with its sign, filled up with zeros. -/
def NumberStyle.exponentText (style : NumberStyle) (e : Int) : String :=
  let digits := toString e.natAbs
  let zeros := String.ofList (List.replicate (style.exponentDigits - digits.length) '0')
  (if e < 0 then "e-" else "e+") ++ zeros ++ digits

/-- Drops the zeros at the end of a list of digits. -/
def dropTrailingZeros (ds : List Char) : List Char :=
  (ds.reverse.dropWhile (· == '0')).reverse

/-- The digits `d₁d₂…` of the value `0.d₁d₂… * 10 ^ point`. -/
def NumberStyle.layout (style : NumberStyle) (ds : List Char) (point : Int) : String :=
  if style.leastPoint ≤ point ∧ point ≤ style.greatestPoint then
    if point ≤ 0 then "0." ++ String.ofList (List.replicate (-point).toNat '0' ++ ds)
    else
      let whole := ds.take point.toNat ++ List.replicate (point.toNat - ds.length) '0'
      let fraction := ds.drop point.toNat
      String.ofList whole ++ "." ++ if fraction.isEmpty then "0" else String.ofList fraction
  else
    let mantissa := match ds with
      | d :: e :: rest => String.ofList (d :: '.' :: e :: rest)
      | ds => String.ofList ds
    mantissa ++ style.exponentText (point - 1)

/-- The text of a floating-point number. -/
def Binary64.toText (style : NumberStyle) : Binary64 → String
  | nan => "nan"
  | infinite negative => if negative then "-inf" else "inf"
  | finite negative m e =>
    let magnitude :=
      if m = 0 then "0.0"
      else
        let (c, p) := shortestDecimal m e
        let digits := (toString c).toList
        style.layout (dropTrailingZeros digits) (digits.length + p)
    (if negative then "-" else "") ++ magnitude

end SolidityWire
