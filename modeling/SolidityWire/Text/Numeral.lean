/-
Numerals in any script: before a number is read, blanks around it are dropped, and blanks and digits
beyond ASCII are replaced by those of ASCII. Decimal numerals have a greatest length.
-/
import SolidityWire.Power
import SolidityWire.Text.Blank
import SolidityWire.Text.Digit

namespace SolidityWire.Text

/-- The characters that may stand around a number: the blanks among the control characters of old,
and the space. -/
def isMargin (c : Char) : Bool :=
  c = ' ' || ('\t' ≤ c && c ≤ '\r')

/-- Blanks and digits of any script in ASCII; a character that is neither is spoilt, and nothing
counts behind it. -/
def latinize : List Char → List Char
  | [] => []
  | c :: cs =>
    if c.toNat < 127 then c :: latinize cs
    else if isBlank c then ' ' :: latinize cs
    else
      match digitValue? c with
      | some d => Char.ofNat (48 + d) :: latinize cs
      | none => ['?']

/-- The most digits that a decimal numeral may have. -/
def mostDigits : Nat := 4300

/-- Whether a whole number has no decimal numeral because that would be too long. -/
def isTooLong (n : Int) : Bool :=
  10 ^ mostDigits ≤ n.natAbs

/-- The text without margins. -/
def withoutMargins (cs : List Char) : List Char :=
  ((cs.dropWhile isMargin).reverse.dropWhile isMargin).reverse

/-- A numeral as it is read: in ASCII and without margins. -/
def numeral (cs : List Char) : List Char :=
  withoutMargins (if cs.all (·.toNat < 128) then cs else latinize cs)

end SolidityWire.Text
