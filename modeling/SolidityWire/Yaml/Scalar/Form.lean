/-
The forms of plain scalars: truth values, null, and numbers to several bases.
-/
import SolidityWire.Text.Hex

namespace SolidityWire.Yaml

/-! ## Parts of forms -/

/-- A decimal digit or an underscore. -/
def isDigitOrBar (c : Char) : Bool :=
  c.isDigit || c = '_'

/-- The text without a sign in front. -/
def dropSign : List Char → List Char
  | '+' :: cs => cs
  | '-' :: cs => cs
  | cs => cs

/-- Whether the text is nothing or the exponent of a number, which has a sign. -/
def isExponent : List Char → Bool
  | [] => true
  | e :: sign :: ds =>
    (e = 'e' || e = 'E') && (sign = '+' || sign = '-') && !ds.isEmpty && ds.all Char.isDigit
  | _ => false

/-- Whether the text is a part of a number to the base sixty. -/
def isSixtieth : List Char → Bool
  | [d] => d.isDigit
  | [t, d] => '0' ≤ t && t ≤ '5' && d.isDigit
  | _ => false

/-- The parts of a text between colons. -/
def colonParts (cs : List Char) : List (List Char) :=
  cs.splitOn ':'

/-- Whether the text is a point with digits behind it and maybe underscores. -/
def isFraction : List Char → Bool
  | '.' :: ds => ds.all isDigitOrBar
  | _ => false

/-! ## Forms -/

/-- The words for truth values, each in three spellings. -/
def boolWords : List String :=
  ["yes", "Yes", "YES", "no", "No", "NO", "true", "True", "TRUE", "false", "False", "FALSE", "on",
    "On", "ON", "off", "Off", "OFF"]

/-- The words for null. -/
def nullWords : List String := ["~", "null", "Null", "NULL", ""]

/-- Whether the text, after its sign, is a decimal number with a point, maybe with an exponent. -/
def isPointNumber (cs : List Char) : Bool :=
  match cs with
  | d :: _ =>
    d.isDigit &&
      match cs.dropWhile isDigitOrBar with
      | '.' :: rest => isExponent (rest.dropWhile isDigitOrBar)
      | _ => false
  | [] => false

/-- Whether the text is a number that begins with its point. -/
def isBarePoint : List Char → Bool
  | '.' :: d :: rest => d.isDigit && isExponent (rest.dropWhile isDigitOrBar)
  | _ => false

/-- Whether the text, after its sign, is a number to the base sixty with a point. -/
def isSixtyFloat (cs : List Char) : Bool :=
  match colonParts cs with
  | first :: next :: rest =>
    match (next :: rest).reverse with
    | last :: middle =>
      first.head?.any Char.isDigit && first.all isDigitOrBar && middle.all isSixtieth &&
        isSixtieth (last.takeWhile Char.isDigit) && isFraction (last.dropWhile Char.isDigit)
    | [] => false
  | _ => false

/-- Whether the text has the form of a floating-point number. -/
def isFloatForm (cs : List Char) : Bool :=
  let body := dropSign cs
  isPointNumber body || isBarePoint cs || isSixtyFloat body ||
    [".inf", ".Inf", ".INF"].contains (String.ofList body) ||
    [".nan", ".NaN", ".NAN"].contains (String.ofList cs)

/-- Whether the text is at least one of the given characters, underscores included. -/
def isDigits (isDigit : Char → Bool) (cs : List Char) : Bool :=
  !cs.isEmpty && cs.all fun c => isDigit c || c = '_'

/-- Whether the text is a decimal number without a zero in front. -/
def isDecimal (cs : List Char) : Bool :=
  match cs with
  | d :: rest => d.isDigit && d != '0' && rest.all isDigitOrBar
  | [] => false

/-- Whether the text has the form of a whole number. -/
def isIntForm (cs : List Char) : Bool :=
  match dropSign cs with
  | ['0'] => true
  | '0' :: 'b' :: ds => isDigits (fun c => c = '0' || c = '1') ds
  | '0' :: 'x' :: ds => isDigits (fun c => (Text.hexValue? c).isSome) ds
  | '0' :: ds => isDigits (fun c => '0' ≤ c && c ≤ '7') ds
  | body =>
    match colonParts body with
    | [ds] => isDecimal ds
    | ds :: parts => isDecimal ds && parts.all isSixtieth
    | [] => false

end SolidityWire.Yaml
