/-
The numbers that scalars write. Underscores are dropped; colons separate the parts of a number to
the base sixty.
-/
import SolidityWire.Decimal.Binary64
import SolidityWire.Yaml.Fault
import SolidityWire.Yaml.Scalar.Form

namespace SolidityWire.Yaml

/-! ## Whole numbers -/

/-- Whether the character is a digit to the base. -/
def isDigitOf (base : Nat) (c : Char) : Bool :=
  (Text.hexValue? c).any (· < base)

/-- The text without the letters that name its base. -/
def dropBaseLetters (base : Nat) (cs : List Char) : List Char :=
  match base, cs with
  | 2, '0' :: 'b' :: ds | 2, '0' :: 'B' :: ds | 8, '0' :: 'o' :: ds | 8, '0' :: 'O' :: ds
  | 16, '0' :: 'x' :: ds | 16, '0' :: 'X' :: ds => ds
  | _, cs => cs

/-- The number that a text writes to a base, with a sign if any. -/
def numberOf (base : Nat) (cs : List Char) : Except Fault Int :=
  let cs := Text.numeral cs
  let digits := dropBaseLetters base (dropSign cs)
  let isTooLong := base = 10 && Text.mostDigits < digits.length
  if digits.isEmpty || !digits.all (isDigitOf base) || isTooLong then
    .error (.content .badNumber)
  else
    let n : Int := digits.foldl (fun n c => n * base + (Text.hexValue? c).getD 0) 0
    .ok (if cs.head? = some '-' then -n else n)

/-- A whole number without its sign, by the form of the text. -/
def unsignedInt (cs : List Char) : Except Fault Int :=
  match cs with
  | [] => .error (.content .emptyNumber)
  | ['0'] => .ok 0
  | '0' :: 'b' :: ds => numberOf 2 ds
  | '0' :: 'x' :: ds => numberOf 16 ds
  | '0' :: _ => numberOf 8 cs
  | cs => do
    let parts ← (colonParts cs).mapM (numberOf 10)
    return parts.foldl (fun n part => n * 60 + part) 0

/-- The whole number that a scalar writes. -/
def intOf (text : String) : Except Fault Int := do
  let cs := text.toList.filter (· ≠ '_')
  let n ← unsignedInt (dropSign cs)
  return if cs.head? = some '-' then -n else n

/-! ## Floating-point numbers -/

/-- The floating-point number that a part of a text writes. -/
def floatPart (cs : List Char) : Except Fault Binary64 :=
  match Binary64.ofText? (String.ofList cs) with
  | some x => .ok x
  | none => .error (.content .badNumber)

/-- The sum of parts to the base sixty, the last part first: each part is multiplied by the number
nearest to its weight, if there is one. -/
def sumOfParts (sum : Binary64) (weight : Nat) : List Binary64 → Except Fault Binary64
  | [] => .ok sum
  | part :: parts =>
    match Binary64.ofInt weight with
    | .finite _ m e => sumOfParts (sum.add (part.scale m e)) (weight * 60) parts
    | _ => .error (.content .weightOverflow)

/-- The letters of a scalar that is read as a floating-point number. -/
def floatLetters (text : String) : List Char :=
  (text.toList.filter (· ≠ '_')).map Char.toLower

/-- Whether the text is the word for what is no number. -/
def isNanWord (text : String) : Bool :=
  dropSign (floatLetters text) = ".nan".toList

/-- A floating-point number without its sign, by the form of the text. -/
def unsignedFloat (cs : List Char) : Except Fault Binary64 :=
  if cs = ".inf".toList then .ok (.infinite false)
  else if cs = ".nan".toList then .ok .nan
  else if cs.contains ':' then do
    let parts ← (colonParts cs).mapM floatPart
    sumOfParts (Binary64.ofInt 0) 1 parts.reverse
  else floatPart cs

/-- The floating-point number that a scalar writes. -/
def floatOf (text : String) : Except Fault Binary64 := do
  let cs := floatLetters text
  if cs.isEmpty then throw (.content .emptyNumber)
  let x ← unsignedFloat (dropSign cs)
  return if cs.head? = some '-' then x.negate else x

end SolidityWire.Yaml
