/-
Floating-point numbers of 64 bits as exact values: a sign, a whole mantissa below `2 ^ 53` and a
power of two. Every finite result is the nearest one, ties to an even mantissa.
-/
import SolidityWire.Text.Numeral

namespace SolidityWire

/-- A floating-point number; a finite one is `± mantissa * 2 ^ exponent`, with the mantissa at least
`2 ^ 52` unless the exponent is the least one. -/
inductive Binary64 where
  | nan
  | infinite (negative : Bool)
  | finite (negative : Bool) (mantissa : Nat) (exponent : Int)
  deriving DecidableEq, Inhabited, Repr

namespace Binary64

/-! ## Rounding -/

/-- The exponent of the numbers nearest to zero. -/
def leastExponent : Int := -1074

/-- The greatest exponent of a finite number. -/
def greatestExponent : Int := 971

/-- The quotient rounded to the nearest whole number, a tie to the even one. -/
def roundDiv (num den : Nat) : Nat :=
  let q := num / den
  let r := num % den
  if 2 * r < den || (2 * r == den && q % 2 == 0) then q else q + 1

/-- The rounded quotient `num / (den * 2 ^ exponent)`. -/
def mantissaAt (num den : Nat) (exponent : Int) : Nat :=
  if exponent < 0 then roundDiv (num * 2 ^ (-exponent).toNat) den
  else roundDiv num (den * 2 ^ exponent.toNat)

/-- The number with this sign nearest to `num / den`. -/
def ofRatio (negative : Bool) (num den : Nat) : Binary64 :=
  if num = 0 then finite negative 0 leastExponent
  else
    let guess : Int := (num.log2 : Int) - (den.log2 : Int) - 53
    let exponent :=
      if mantissaAt num den guess < 2 ^ 53 then guess else guess + 1
    let exponent := max exponent leastExponent
    let m := mantissaAt num den exponent
    let (m, exponent) := if m < 2 ^ 53 then (m, exponent) else (2 ^ 52, exponent + 1)
    if exponent > greatestExponent then infinite negative else finite negative m exponent

/-- The number nearest to `digits * 10 ^ exponent`; exponents far out of range are not expanded. -/
def ofDecimal (negative : Bool) (digits : Nat) (exponent : Int) : Binary64 :=
  if digits = 0 then finite negative 0 leastExponent
  else if exponent > 400 then infinite negative
  else if exponent + (digits.log2 : Int) < -1200 then finite negative 0 leastExponent
  else if exponent < 0 then ofRatio negative digits (10 ^ (-exponent).toNat)
  else ofRatio negative (digits * 10 ^ exponent.toNat) 1

/-- The number nearest to a whole number. -/
def ofInt (n : Int) : Binary64 :=
  ofRatio (decide (n < 0)) n.natAbs 1

/-! ## Comparison and arithmetic -/

/-- The sign and the value of a finite number as a whole multiple of `2 ^ (-1074)`. -/
def scaled? : Binary64 → Option Int
  | finite negative m e =>
    let size : Int := m * 2 ^ (e - leastExponent).toNat
    some (if negative then -size else size)
  | _ => none

/-- How the number compares with a whole one; a NaN compares with none. -/
def compareInt? (x : Binary64) (n : Int) : Option Ordering :=
  match x with
  | nan => none
  | infinite negative => some (if negative then .lt else .gt)
  | finite .. => x.scaled?.map fun v => compare v (n * 2 ^ 1074)

/-- Whether two numbers are equal as numbers: a NaN is equal to none, both zeros are equal. -/
def numEq : Binary64 → Binary64 → Bool
  | infinite a, infinite b => a == b
  | x@(finite ..), y@(finite ..) => x.scaled? == y.scaled?
  | _, _ => false

/-- The number nearest to a whole multiple of `2 ^ (-1074)`. -/
def ofScaled (v : Int) : Binary64 :=
  ofRatio (decide (v < 0)) v.natAbs (2 ^ 1074)

/-- The rounded sum; infinities of different signs have none. -/
def add : Binary64 → Binary64 → Binary64
  | infinite a, infinite b => if a = b then infinite a else nan
  | nan, _ => nan
  | _, nan => nan
  | infinite a, _ => infinite a
  | _, infinite b => infinite b
  | x, y => ofScaled (x.scaled?.getD 0 + y.scaled?.getD 0)

/-- The rounded product with a finite number above zero. -/
def scale (x : Binary64) (mantissa : Nat) (exponent : Int) : Binary64 :=
  match x with
  | finite negative m e =>
    let e := e + exponent
    if e < 0 then ofRatio negative (m * mantissa) (2 ^ (-e).toNat)
    else ofRatio negative (m * mantissa * 2 ^ e.toNat) 1
  | x => x

/-- The number with the other sign. -/
def negate : Binary64 → Binary64
  | nan => nan
  | infinite negative => infinite !negative
  | finite negative m e => finite (!negative) m e

/-! ## Reading -/

/-- Drops each underscore that stands between two digits; any other one is kept and will be refused.
-/
def dropSeparators : List Char → List Char
  | c :: '_' :: d :: rest =>
    if c.isDigit && d.isDigit then c :: dropSeparators (d :: rest)
    else c :: '_' :: dropSeparators (d :: rest)
  | c :: rest => c :: dropSeparators rest
  | [] => []

/-- The whole number that decimal digits write. -/
def digitsValue (cs : List Char) : Nat :=
  cs.foldl (fun n c => n * 10 + (c.toNat - 48)) 0

/-- The exponent part of a literal: nothing, or a letter, a sign if any, and digits. -/
def exponentPart? : List Char → Option Int
  | [] => some 0
  | e :: rest =>
    if e = 'e' || e = 'E' then
      let (negative, ds) := match rest with
        | '-' :: ds => (true, ds)
        | '+' :: ds => (false, ds)
        | ds => (false, ds)
      if ds.isEmpty || !ds.all Char.isDigit then none
      else some (if negative then -(digitsValue ds : Int) else digitsValue ds)
    else none

/-- An unsigned literal with at least one digit before the exponent. -/
def unsigned? (negative : Bool) (cs : List Char) : Option Binary64 :=
  let word := cs.map Char.toLower
  if word = "inf".toList || word = "infinity".toList then some (infinite negative)
  else if word = "nan".toList then some nan
  else
    let whole := cs.takeWhile Char.isDigit
    let (fraction, rest) := match cs.dropWhile Char.isDigit with
      | '.' :: rest => (rest.takeWhile Char.isDigit, rest.dropWhile Char.isDigit)
      | rest => ([], rest)
    if whole.isEmpty && fraction.isEmpty then none
    else
      (exponentPart? rest).map fun e =>
        ofDecimal negative (digitsValue (whole ++ fraction)) (e - fraction.length)

/-- The number that a decimal literal writes, in the digits of any script. -/
def ofText? (s : String) : Option Binary64 :=
  match dropSeparators (Text.numeral s.toList) with
  | '-' :: cs => unsigned? true cs
  | '+' :: cs => unsigned? false cs
  | cs => unsigned? false cs

end Binary64

end SolidityWire
