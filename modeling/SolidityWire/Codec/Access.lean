/-
How values are taken apart: by field, and item by item. Any record with the right fields will do,
and anything that has items is a sequence; plain values have fields and operations of their own.
-/
import SolidityWire.Text.Surrogate
import SolidityWire.Value.Basic

namespace SolidityWire

namespace Value

/-! ## Fields -/

/-- The operations of numbers of any kind. -/
def numberOperations : List String := ["as_integer_ratio", "conjugate"]

/-- The operations of whole numbers. -/
def wholeOperations : List String :=
  numberOperations ++ ["bit_count", "bit_length", "from_bytes", "to_bytes"]

/-- The operations of floating-point numbers. -/
def floatOperations : List String := numberOperations ++ ["fromhex", "hex", "is_integer"]

/-- The operations that texts and bytes share. -/
def stringOperations : List String :=
  ["capitalize", "center", "count", "endswith", "expandtabs", "find", "index", "isalnum", "isalpha",
    "isascii", "isdigit", "islower", "isspace", "istitle", "isupper", "join", "ljust", "lower",
    "lstrip", "maketrans", "partition", "removeprefix", "removesuffix", "replace", "rfind",
    "rindex", "rjust", "rpartition", "rsplit", "rstrip", "split", "splitlines", "startswith",
    "strip", "swapcase", "title", "translate", "upper", "zfill"]

/-- The operations of texts. -/
def textOperations : List String :=
  stringOperations ++ ["casefold", "encode", "format", "format_map", "isdecimal", "isidentifier",
    "isnumeric", "isprintable"]

/-- The operations of bytes. -/
def bytesOperations : List String := stringOperations ++ ["decode", "fromhex", "hex"]

/-- The operations of bytes that can change in place. -/
def byteArrayOperations : List String :=
  bytesOperations ++ ["append", "clear", "copy", "extend", "insert", "pop", "remove", "reverse"]

/-- What views have under a name, as far as nothing is known about it. -/
def viewOperations : List String :=
  ["cast", "format", "hex", "itemsize", "obj", "readonly", "release", "strides", "tobytes", "tolist",
    "toreadonly"]

/-- The operations of lists. -/
def listOperations : List String :=
  ["append", "clear", "copy", "count", "extend", "index", "insert", "pop", "remove", "reverse",
    "sort"]

/-- The operations of mappings. -/
def dictOperations : List String :=
  ["clear", "copy", "fromkeys", "get", "items", "keys", "pop", "popitem", "setdefault", "update",
    "values"]

/-- An operation of a value, about which nothing else is known. -/
def operation : Value :=
  foreign "<built-in method>" "builtin_function_or_method"

/-- An operation, if it is listed. -/
def operationOf (names : List String) (name : String) : Option Value :=
  if names.contains name then some operation else none

/-- The parts of a whole number. -/
def wholeField? (n : Int) (name : String) : Option Value :=
  match name with
  | "real" | "numerator" => some (integer n)
  | "imag" => some (integer 0)
  | "denominator" => some (integer 1)
  | name => operationOf wholeOperations name

/-- The parts of a view of one dimension without gaps. -/
def viewField? (items : List Value) (data : List UInt8) (name : String) : Option Value :=
  match name with
  | "nbytes" => some (integer data.length)
  | "ndim" => some (integer 1)
  | "shape" => some (tuple [integer items.length])
  | "suboffsets" => some (tuple [])
  | "contiguous" | "c_contiguous" | "f_contiguous" => some (boolean true)
  | name => operationOf viewOperations name

/-- The value of a field. -/
def field? (v : Value) (name : String) : Option Value :=
  match v with
  | record _ fields _ => fields.lookup name
  | member _ memberName ordinal =>
    match name with
    | "name" => some (text memberName)
    | "value" => some (integer ordinal)
    | name => wholeField? ordinal name
  | boolean b => wholeField? (if b then 1 else 0) name
  | integer n => wholeField? n name
  | float x =>
    match name with
    | "real" => some (float x)
    | "imag" => some (float (Binary64.ofInt 0))
    | name => operationOf floatOperations name
  | text _ | unpaired _ => operationOf textOperations name
  | bytes _ => operationOf bytesOperations name
  | byteArray _ => operationOf byteArrayOperations name
  | view items data => viewField? items data name
  | list _ => operationOf listOperations name
  | dict _ => operationOf dictOperations name
  | _ => none

/-! ## Items -/

/-- A character of a text as a text of its own; half of a surrogate pair is no character. -/
def ofChar (c : Char) : Value :=
  if Text.isLoneHalf c then unpaired (String.singleton c) else text (String.singleton c)

/-- The items of a value: characters of a text, numbers of bytes, keys of a mapping. -/
def items? : Value → Option (List Value)
  | list items => some items
  | set items => some items
  | tuple items => some items
  | text s => some (s.toList.map fun c => text (String.singleton c))
  | unpaired s => some (s.toList.map ofChar)
  | bytes data | byteArray data => some (data.map fun b => integer b.toNat)
  | view items _ => some items
  | dict entries => some (entries.map Prod.fst)
  | _ => none

end Value

end SolidityWire
