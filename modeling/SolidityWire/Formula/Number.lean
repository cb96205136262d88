/-
Arithmetic in formulas: whole numbers of any size and floating-point numbers. A truth value counts
as zero or one, and of two kinds the result is of the wider one.
-/
import SolidityWire.Codec.Misuse
import SolidityWire.Formula.Basic

namespace SolidityWire.Formula

/-! ## Whole numbers -/

/-- The number of binary digits beyond which results are not worked out. -/
def mostBits : Nat := 200000

/-- The bits of two numbers joined one by one; a negative number has ones in front without end. -/
def joinBits (f : Nat → Nat → Nat) (m n : Int) : Int :=
  let width := max m.natAbs.log2 n.natAbs.log2 + 2
  let joined := f (m % 2 ^ width).toNat (n % 2 ^ width).toNat
  if joined < 2 ^ (width - 1) then joined else (joined : Int) - 2 ^ width

/-- The power of whole numbers; a negative exponent gives a fraction. -/
def wholePower (m n : Int) : Except Misuse Value :=
  if 0 ≤ n then
    if 1 < m.natAbs ∧ mostBits < (m.natAbs.log2 + 1) * n.toNat then .error .badValue
    else .ok (.integer (m ^ n.toNat))
  else if m = 0 then .error .divisionByZero
  else if 1 < m.natAbs ∧ 1200 < n.natAbs then .ok (.float (.ofRatio false 0 1))
  else .ok (.float (.ofRatio (decide (m < 0) && n % 2 != 0) 1 (m.natAbs ^ n.natAbs)))

/-- The quotient of whole numbers as a floating-point number. -/
def quotient (m n : Int) : Except Misuse Value :=
  if n = 0 then .error .divisionByZero
  else
    match Binary64.ofRatio (decide (m < 0) != decide (n < 0)) m.natAbs n.natAbs with
    | .infinite _ => .error .tooLarge
    | x => .ok (.float x)

/-- An operator on whole numbers. -/
def wholeBinary (op : BinaryOp) (m n : Int) : Except Misuse Value :=
  match op with
  | .add => .ok (.integer (m + n))
  | .sub => .ok (.integer (m - n))
  | .mul => .ok (.integer (m * n))
  | .matMul => .error .wrongType
  | .div => quotient m n
  | .floorDiv => if n = 0 then .error .divisionByZero else .ok (.integer (m.fdiv n))
  | .mod => if n = 0 then .error .divisionByZero else .ok (.integer (m.fmod n))
  | .pow => wholePower m n
  | .shiftLeft =>
    if n < 0 ∨ (m ≠ 0 ∧ (mostBits : Int) < n) then .error .badValue
    else .ok (.integer (m * 2 ^ n.toNat))
  | .shiftRight =>
    if n < 0 then .error .badValue
    else .ok (.integer (m.fdiv (2 ^ min n.toNat (m.natAbs.log2 + 1))))
  | .bitAnd => .ok (.integer (joinBits Nat.land m n))
  | .bitXor => .ok (.integer (joinBits Nat.xor m n))
  | .bitOr => .ok (.integer (joinBits Nat.lor m n))

/-! ## Floating-point numbers -/

/-- The multiple of `2 ^ (-1074)` that a value is close to, rounded to the nearest number. -/
def ofFraction (num den : Int) : Binary64 :=
  .ofRatio (decide (num < 0) != decide (den < 0)) num.natAbs den.natAbs

/-- An operator on the multiples of `2 ^ (-1074)` that two numbers are. -/
def scaledBinary (op : BinaryOp) (a b : Int) : Except Misuse Binary64 :=
  let unit : Int := 2 ^ 1074
  match op with
  | .add => .ok (.ofScaled (a + b))
  | .sub => .ok (.ofScaled (a - b))
  | .mul => .ok (ofFraction (a * b) (unit * unit))
  | .div => if b = 0 then .error .divisionByZero else .ok (ofFraction a b)
  | .floorDiv => if b = 0 then .error .divisionByZero else .ok (.ofInt (a.fdiv b))
  | .mod => if b = 0 then .error .divisionByZero else .ok (.ofScaled (a.fmod b))
  | .pow =>
    let n := b / unit
    if b % unit ≠ 0 ∨ 1024 < n.natAbs then .error .badValue
    else if 0 ≤ n then .ok (ofFraction (a ^ n.toNat) (unit ^ n.toNat))
    else if a = 0 then .error .divisionByZero
    else .ok (ofFraction (unit ^ n.natAbs) (a ^ n.natAbs))
  | _ => .error .wrongType

/-- An operator on floating-point numbers; one that is not finite has no sum and no multiple but
itself. -/
def floatBinary (op : BinaryOp) (x y : Binary64) : Except Misuse Value :=
  match x.scaled?, y.scaled? with
  | some a, some b => (scaledBinary op a b).map .float
  | _, _ =>
    match op with
    | .add => .ok (.float (x.add y))
    | .sub => .ok (.float (x.add y.negate))
    | _ => .ok (.float .nan)

/-! ## Numbers of any kind -/

/-- A number as a floating-point one. -/
def asFloat? (v : Value) : Option Binary64 :=
  match v with
  | .float x => some x
  | v => v.wholeNumber?.map Binary64.ofInt

/-- An operator on numbers; `none` if one of the values is none. -/
def numberBinary? (op : BinaryOp) (a b : Value) : Option (Except Misuse Value) :=
  match a, b with
  | .boolean p, .boolean q =>
    match op with
    | .bitAnd => some (.ok (.boolean (p && q)))
    | .bitOr => some (.ok (.boolean (p || q)))
    | .bitXor => some (.ok (.boolean (p != q)))
    | op => some (wholeBinary op (if p then 1 else 0) (if q then 1 else 0))
  | a, b =>
    match a.wholeNumber?, b.wholeNumber? with
    | some m, some n => some (wholeBinary op m n)
    | _, _ =>
      match asFloat? a, asFloat? b with
      | some x, some y => some (floatBinary op x y)
      | _, _ => none

/-- An operator in front of a number. -/
def numberUnary (op : UnaryOp) (v : Value) : Except Misuse Value :=
  match v, v.wholeNumber?, op with
  | _, some n, .plus => .ok (.integer n)
  | _, some n, .minus => .ok (.integer (-n))
  | _, some n, .invert => .ok (.integer (-n - 1))
  | .float x, _, .plus => .ok (.float x)
  | .float x, _, .minus => .ok (.float x.negate)
  | _, _, _ => .error .wrongType

/-- How two numbers compare; `some none` if one of them is a NaN. -/
def compareNumbers? (a b : Value) : Option (Option Ordering) :=
  match a, b with
  | .float x, .float y =>
    match x.scaled?, y.scaled? with
    | some m, some n => some (some (Ord.compare m n))
    | _, some _ => some (x.compareInt? 0)
    | some _, _ => some ((y.compareInt? 0).map Ordering.swap)
    | none, none =>
      match x, y with
      | .infinite p, .infinite q => some (some (Ord.compare q p))
      | _, _ => some none
  | a, b =>
    match a.wholeNumber?, b.wholeNumber? with
    | _, some n => a.compareWhole? n
    | some m, none => (b.compareWhole? m).map (·.map Ordering.swap)
    | none, none => none

end SolidityWire.Formula
