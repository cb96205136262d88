/-
What the operations of values give when they are called: changes of texts, searches, and parts of
numbers.
-/
import SolidityWire.Formula.Function
import SolidityWire.Text.Lowercase
import SolidityWire.Text.Utf8

namespace SolidityWire.Formula

/-! ## Texts -/

/-- A letter of ASCII in the other case. -/
def swapCase (c : Char) : Char :=
  if c.isUpper then c.toLower else c.toUpper

/-- Words with a capital in front. -/
def titleCase (inWord : Bool) : List Char → List Char
  | [] => []
  | c :: cs => (if inWord then c.toLower else c.toUpper) :: titleCase c.isAlpha cs

/-- The characters without those in front that are among some, or that are blank. -/
def withoutFront (drop : Option (List Char)) (cs : List Char) : List Char :=
  cs.dropWhile fun c => match drop with
    | some ds => ds.contains c
    | none => Text.isBlank c

/-- The characters without those at the end that are among some, or that are blank. -/
def withoutEnd (drop : Option (List Char)) (cs : List Char) : List Char :=
  (withoutFront drop cs.reverse).reverse

/-- The text with one part in the place of another. -/
def replaceAll (old new : List Char) : (fuel : Nat) → List Char → List Char
  | 0, cs => cs
  | _ + 1, [] => if old.isEmpty then new else []
  | fuel + 1, c :: cs =>
    if old.isEmpty then new ++ c :: replaceAll old new fuel cs
    else if old.isPrefixOf (c :: cs) then
      new ++ replaceAll old new fuel ((c :: cs).drop old.length)
    else c :: replaceAll old new fuel cs

/-- The parts of a text between separators; `part` is in reverse. -/
def splitAt (separator : List Char) : (fuel : Nat) → (part : List Char) → List Char → List String
  | 0, part, cs => [String.ofList (part.reverse ++ cs)]
  | _ + 1, part, [] => [String.ofList part.reverse]
  | fuel + 1, part, c :: cs =>
    if separator.isPrefixOf (c :: cs) then
      String.ofList part.reverse :: splitAt separator fuel [] ((c :: cs).drop separator.length)
    else splitAt separator fuel (c :: part) cs

/-- The place of the first part of a list that is equal to another list. -/
def placeOf? {α : Type} [BEq α] (part : List α) : List α → Option Nat
  | [] => if part.isEmpty then some 0 else none
  | a :: rest =>
    if part.isPrefixOf (a :: rest) then some 0 else (placeOf? part rest).map (· + 1)

/-- How often a part stands in a list without overlaps. -/
def countOf {α : Type} [BEq α] (part : List α) : (fuel : Nat) → List α → Nat
  | 0, _ => 0
  | _ + 1, [] => if part.isEmpty then 1 else 0
  | fuel + 1, a :: rest =>
    if part.isEmpty then countOf part fuel rest + 1
    else if part.isPrefixOf (a :: rest) then
      countOf part fuel ((a :: rest).drop part.length) + 1
    else countOf part fuel rest

/-- The text with its sign in front and zeros behind it, up to a width. -/
def zeroFilled (width : Nat) (cs : List Char) : List Char :=
  let zeros := List.replicate (width - cs.length) '0'
  match cs with
  | '-' :: rest => '-' :: zeros ++ rest
  | '+' :: rest => '+' :: zeros ++ rest
  | cs => zeros ++ cs

/-- The text in the middle of a width. -/
def centred (width : Nat) (fill : Char) (cs : List Char) : List Char :=
  let missing := width - cs.length
  let front := missing / 2 + if missing % 2 = 1 ∧ width % 2 = 1 then 1 else 0
  List.replicate front fill ++ cs ++ List.replicate (missing - front) fill

/-- The texts of values. -/
def textsOf (v : Value) : Except Misuse (List String) := do
  (← itemsOf v).mapM fun
    | .text s => .ok s
    | _ => .error .wrongType

/-- Whether one of several texts fits. -/
def anyText (fits : List Char → Bool) : Value → Except Misuse Value
  | .text s => .ok (.boolean (fits s.toList))
  | .tuple vs => do return .boolean ((← textsOf (.tuple vs)).any fun s => fits s.toList)
  | _ => .error .wrongType

/-- An operation that lays a text out in a width, if it is one. -/
def widthMethod? (name : String) (width : Nat) (fill : Char) (cs : List Char) :
    Option (List Char) :=
  let missing := List.replicate (width - cs.length) fill
  match name with
  | "center" => some (centred width fill cs)
  | "ljust" => some (cs ++ missing)
  | "rjust" => some (missing ++ cs)
  | "zfill" => if fill = ' ' then some (zeroFilled width cs) else none
  | _ => none

/-- Whether characters, of which there are some, are all of one kind. -/
def areAll (p : Char → Bool) (cs : List Char) : Except Misuse Value :=
  .ok (.boolean (!cs.isEmpty && cs.all p))

/-- What an operation of a text gives. -/
def textMethod (cs : List Char) (name : String) (arguments : List Value) : Except Misuse Value :=
  let made (ds : List Char) : Except Misuse Value := .ok (.text (String.ofList ds))
  match name, arguments with
  | "upper", [] => made (cs.map Char.toUpper)
  | "lower", [] | "casefold", [] => .ok (.text (Text.lowercase (String.ofList cs)))
  | "swapcase", [] => made (cs.map swapCase)
  | "title", [] => made (titleCase false cs)
  | "capitalize", [] => made ((cs.take 1).map Char.toUpper ++ (cs.drop 1).map Char.toLower)
  | "strip", [] => made (withoutEnd none (withoutFront none cs))
  | "lstrip", [] => made (withoutFront none cs)
  | "rstrip", [] => made (withoutEnd none cs)
  | "strip", [.text s] => made (withoutEnd (some s.toList) (withoutFront (some s.toList) cs))
  | "lstrip", [.text s] => made (withoutFront (some s.toList) cs)
  | "rstrip", [.text s] => made (withoutEnd (some s.toList) cs)
  | "replace", [.text s, .text t] => made (replaceAll s.toList t.toList (cs.length + 1) cs)
  | "join", [v] => (textsOf v).map fun ss => .text ((String.ofList cs).intercalate ss)
  | "startswith", [v] => anyText (·.isPrefixOf cs) v
  | "endswith", [v] => anyText (·.isSuffixOf cs) v
  | "split", [] => .ok (.list ((Text.words (String.ofList cs)).map .text))
  | "split", [.text s] =>
    if s.isEmpty then .error .badValue
    else .ok (.list ((splitAt s.toList (cs.length + 1) [] cs).map .text))
  | "count", [.text s] => .ok (.integer (countOf s.toList (cs.length + 1) cs))
  | "find", [.text s] =>
    .ok (.integer (match placeOf? s.toList cs with | some i => i | none => -1))
  | "index", [.text s] =>
    match placeOf? s.toList cs with
    | some i => .ok (.integer i)
    | none => .error .badValue
  | "isdigit", [] | "isdecimal", [] | "isnumeric", [] => areAll Text.isDigit cs
  | "isalpha", [] => areAll Char.isAlpha cs
  | "isalnum", [] => areAll Char.isAlphanum cs
  | "isspace", [] => areAll Text.isBlank cs
  | "isascii", [] => .ok (.boolean (cs.all fun c => c.toNat < 128))
  | "isidentifier", [] => .ok (.boolean (Text.isIdentifier (String.ofList cs)))
  | "isupper", [] => .ok (.boolean (cs.any Char.isUpper && !cs.any Char.isLower))
  | "islower", [] => .ok (.boolean (cs.any Char.isLower && !cs.any Char.isUpper))
  | "encode", [] => .ok (.bytes (Text.Utf8.encode cs))
  | name, [.integer width] =>
    match widthMethod? name width.toNat ' ' cs with
    | some ds => made ds
    | none => .error .wrongType
  | name, [.integer width, .text fill] =>
    match fill.toList with
    | [c] =>
      match widthMethod? name width.toNat c cs with
      | some ds => made ds
      | none => .error .wrongType
    | _ => .error .wrongType
  | _, _ => .error .wrongType

/-! ## Numbers -/

/-- The number of ones among the binary digits. -/
def onesOf (n : Nat) : Nat :=
  (Nat.toDigits 2 n).count '1'

/-- What an operation of a whole number gives. -/
def wholeMethod (n : Int) (name : String) (arguments : List Value) : Except Misuse Value :=
  match name, arguments with
  | "bit_length", [] => .ok (.integer (if n = 0 then 0 else n.natAbs.log2 + 1))
  | "bit_count", [] => .ok (.integer (onesOf n.natAbs))
  | "conjugate", [] => .ok (.integer n)
  | "as_integer_ratio", [] => .ok (.tuple [.integer n, .integer 1])
  | _, _ => .error .wrongType

/-- What an operation of a floating-point number gives. -/
def floatMethod (x : Binary64) (name : String) (arguments : List Value) : Except Misuse Value :=
  match name, arguments with
  | "is_integer", [] => .ok (.boolean (x.scaled?.any fun n => n % 2 ^ 1074 = 0))
  | "conjugate", [] => .ok (.float x)
  | _, _ => .error .wrongType

/-! ## Collections -/

/-- What an operation of a list gives. -/
def listMethod (items : List Value) (name : String) (arguments : List Value) :
    Except Misuse Value :=
  match name, arguments with
  | "count", [v] => .ok (.integer (items.countP v.equal))
  | "index", [v] =>
    match items.findIdx? v.equal with
    | some i => .ok (.integer i)
    | none => .error .badValue
  | "copy", [] => .ok (.list items)
  | _, _ => .error .wrongType

/-- What an operation of a mapping gives. -/
def dictMethod (entries : List (Value × Value)) (name : String) (arguments : List Value) :
    Except Misuse Value :=
  let found (k : Value) : Option Value :=
    (entries.find? fun (l, _) => l.sameKey k).map Prod.snd
  match name, arguments with
  | "get", [k] => .ok ((found k).getD .null)
  | "get", [k, v] => .ok ((found k).getD v)
  | "copy", [] => .ok (.dict entries)
  | "keys", [] => .ok (.list (entries.map Prod.fst))
  | "values", [] => .ok (.list (entries.map Prod.snd))
  | "items", [] => .ok (.list (entries.map fun (k, v) => .tuple [k, v]))
  | _, _ => .error .wrongType

/-- What an operation of bytes gives. -/
def bytesMethod (data : List UInt8) (name : String) (arguments : List Value) :
    Except Misuse Value :=
  match name, arguments with
  | "hex", [] =>
    .ok (.text (String.ofList (data.flatMap fun b => Text.hexDigits 2 b.toNat [])))
  | "decode", [] =>
    match Text.Utf8.decode? data with
    | some cs => .ok (.text (String.ofList cs))
    | none => .error (.raised "UnicodeDecodeError")
  | _, _ => .error .wrongType

/-! ## Calls -/

/-- The operations of tuples. -/
def tupleOperations : List String := ["count", "index"]

/-- Whether a value has an operation of a name. -/
def hasMethod (v : Value) (name : String) : Bool :=
  match v with
  | .text _ => Value.textOperations.contains name
  | .bytes _ => Value.bytesOperations.contains name
  | .list _ => Value.listOperations.contains name
  | .tuple _ => tupleOperations.contains name
  | .dict _ => Value.dictOperations.contains name
  | .float _ => Value.floatOperations.contains name
  | .boolean _ | .integer _ => Value.wholeOperations.contains name
  | _ => false

/-- What an operation of a value gives. -/
def callMethod (v : Value) (name : String) (arguments : List Value) : Except Misuse Value :=
  match v, v.wholeNumber? with
  | .text s, _ => textMethod s.toList name arguments
  | .bytes data, _ => bytesMethod data name arguments
  | .list items, _ | .tuple items, _ => listMethod items name arguments
  | .dict entries, _ => dictMethod entries name arguments
  | .float x, _ => floatMethod x name arguments
  | _, some n => wholeMethod n name arguments
  | _, none => .error .wrongType

end SolidityWire.Formula
