/-
Hexadecimal numbers of a fixed number of digits: they are written in small letters and read in
letters of any case.
-/

namespace SolidityWire.Text

/-! ## Writing -/

/-- The hexadecimal digit of a number below sixteen. -/
def hexDigit (n : Nat) : Char :=
  if n < 10 then Char.ofNat (48 + n) else Char.ofNat (87 + n)

/-- The low `width` hexadecimal digits of `n`, most significant first, put before `tail`. -/
def hexDigits : (width n : Nat) → List Char → List Char
  | 0, _, tail => tail
  | width + 1, n, tail => hexDigits width (n / 16) (hexDigit (n % 16) :: tail)

/-! ## Reading -/

/-- The value of a hexadecimal digit. -/
def hexValue? (c : Char) : Option Nat :=
  if c.isDigit then some (c.toNat - 48)
  else if 'a' ≤ c ∧ c ≤ 'f' then some (c.toNat - 87)
  else if 'A' ≤ c ∧ c ≤ 'F' then some (c.toNat - 55)
  else none

/-- The number that the next `width` characters write, put behind the digits of `done`, and what
follows them. -/
def hexNumber? : (width done : Nat) → List Char → Option (Nat × List Char)
  | 0, done, cs => some (done, cs)
  | _ + 1, _, [] => none
  | width + 1, done, c :: cs => (hexValue? c).bind fun d => hexNumber? width (done * 16 + d) cs

end SolidityWire.Text
