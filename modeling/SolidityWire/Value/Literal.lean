/-
How values are written in messages: as the expressions that would build them. A value inside itself
is written as dots, and a number that is too long has no literal. Where a view stands in memory is
left out of its literal.
-/
import SolidityWire.Text.AsciiName
import SolidityWire.Text.Numeral
import SolidityWire.Text.Quoted
import SolidityWire.Value.Basic

namespace SolidityWire

namespace Value

/-- The literal of a truth value. -/
def booleanLiteral (b : Bool) : String :=
  if b then "True" else "False"

/-- The dots for a value inside itself. -/
def dots : Value → String
  | dict _ => "\x7b...\x7d"
  | _ => "[...]"

mutual

/-- The expression that builds the value, inside the labelled values of `around`, each with its
dots. -/
def literalIn (around : List (Nat × String)) : Value → String
  | null => "None"
  | boolean b => booleanLiteral b
  | integer n => toString n
  | float x => x.toText .message
  | text s | unpaired s => Text.quoted s
  | bytes data => Text.quotedBytes data
  | byteArray data => "bytearray(" ++ Text.quotedBytes data ++ ")"
  | view .. => "<memory>"
  | list items => "[" ++ ", ".intercalate (literalsIn around items) ++ "]"
  | tuple [v] => "(" ++ v.literalIn around ++ ",)"
  | tuple items => "(" ++ ", ".intercalate (literalsIn around items) ++ ")"
  | set [] => "set()"
  | set (item :: items) =>
    "\x7b" ++ ", ".intercalate (item.literalIn around :: literalsIn around items) ++ "\x7d"
  | dict entries => "\x7b" ++ ", ".intercalate (entryLiteralsIn around entries) ++ "\x7d"
  | date d => d.literal
  | moment t => t.literal
  | record key fields _ =>
    Text.asciiName key ++ "(" ++ ", ".intercalate (fieldLiteralsIn around fields) ++ ")"
  | member key name ordinal =>
    "<" ++ Text.asciiName key ++ "." ++ name ++ ": " ++ toString ordinal ++ ">"
  | foreign literal _ => literal
  | labelled label v =>
    match around.lookup label with
    | some dots => dots
    | none => v.literalIn ((label, v.dots) :: around)
  | again label => (around.lookup label).getD ""
termination_by structural v => v

/-- The expressions of several values. -/
def literalsIn (around : List (Nat × String)) : List Value → List String
  | [] => []
  | v :: vs => v.literalIn around :: literalsIn around vs
termination_by structural vs => vs

/-- The entries of a mapping, each key before its value. -/
def entryLiteralsIn (around : List (Nat × String)) : List (Value × Value) → List String
  | [] => []
  | (k, v) :: rest =>
    (k.literalIn around ++ ": " ++ v.literalIn around) :: entryLiteralsIn around rest
termination_by structural entries => entries

/-- The fields of a record, each name before its value. -/
def fieldLiteralsIn (around : List (Nat × String)) : List (String × Value) → List String
  | [] => []
  | (name, v) :: rest => (name ++ "=" ++ v.literalIn around) :: fieldLiteralsIn around rest
termination_by structural fields => fields

end

/-- The expression that builds the value. -/
def literal (v : Value) : String :=
  v.literalIn []

/-! ## Values without a literal -/

mutual

/-- Whether the value has no literal because of a number in it. -/
def isTooLong : Value → Bool
  | integer n => Text.isTooLong n
  | list items => anyTooLong items
  | set items => anyTooLong items
  | tuple items => anyTooLong items
  | dict entries => entriesTooLong entries
  | labelled _ v => v.isTooLong
  | _ => false
termination_by structural v => v

/-- Whether one of several values has no literal. -/
def anyTooLong : List Value → Bool
  | [] => false
  | v :: vs => v.isTooLong || anyTooLong vs
termination_by structural vs => vs

/-- Whether a key or a value of a mapping has no literal. -/
def entriesTooLong : List (Value × Value) → Bool
  | [] => false
  | (k, v) :: rest => k.isTooLong || v.isTooLong || entriesTooLong rest
termination_by structural entries => entries

end

/-! ## Other texts -/

/-- The value as plain text: a text is itself and a date has no constructor around it. -/
def display : Value → String
  | text s | unpaired s => s
  | date d => d.text
  | moment t => t.text
  | member _ _ ordinal => toString ordinal
  | v => v.literal

/-- The class of a value, as messages name it. -/
def classLiteral : Value → String
  | null => "<class 'NoneType'>"
  | boolean _ => "<class 'bool'>"
  | integer _ => "<class 'int'>"
  | float _ => "<class 'float'>"
  | text _ | unpaired _ => "<class 'str'>"
  | bytes _ => "<class 'bytes'>"
  | byteArray _ => "<class 'bytearray'>"
  | view .. => "<class 'memoryview'>"
  | list _ => "<class 'list'>"
  | tuple _ => "<class 'tuple'>"
  | set _ => "<class 'set'>"
  | dict _ => "<class 'dict'>"
  | date _ => "<class 'datetime.date'>"
  | moment _ => "<class 'datetime.datetime'>"
  | record key .. => "<class 'types." ++ Text.asciiName key ++ "'>"
  | member key _ _ => "<enum '" ++ Text.asciiName key ++ "'>"
  | foreign _ name => "<class '" ++ name ++ "'>"
  | labelled _ v => v.classLiteral
  | again _ => "<class 'list'>"

end Value

end SolidityWire
