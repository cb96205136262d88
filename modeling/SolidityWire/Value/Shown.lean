/-
Values that cannot be shown: a number in them is too long, or a record has a field in the place of one
of the operations that show it.
-/
import SolidityWire.Codec.Misuse
import SolidityWire.Value.Literal

namespace SolidityWire.Value

/-! ## Literals -/

/-- What keeps a record from having a literal whose fields are attributes of its type: its literal
begins with the name of its class, and what is given as a class has none. -/
def recordFault? (fields : List (String × Value)) : Option Misuse :=
  if (fields.lookup "__repr__").isSome || (fields.lookup "__getattribute__").isSome then
    some .wrongType
  else
    match fields.lookup "__class__" with
    | none | some (foreign _ "type") => none
    | some _ => some .noField

mutual

/-- Why the value has no literal; the first part that has none says it. -/
def literalFault? : Value → Option Misuse
  | integer n => if Text.isTooLong n then some .badValue else none
  | list items => literalsFault? items
  | set items => literalsFault? items
  | tuple items => literalsFault? items
  | dict entries => entriesFault? entries
  | record _ fields shades =>
    (if shades then recordFault? fields else none).or (fieldsFault? fields)
  | labelled _ v => v.literalFault?
  | _ => none
termination_by structural v => v

/-- Why one of several values has no literal. -/
def literalsFault? : List Value → Option Misuse
  | [] => none
  | v :: vs => v.literalFault?.or (literalsFault? vs)
termination_by structural vs => vs

/-- Why a key or a value of a mapping has no literal. -/
def entriesFault? : List (Value × Value) → Option Misuse
  | [] => none
  | (k, v) :: rest => (k.literalFault?.or v.literalFault?).or (entriesFault? rest)
termination_by structural entries => entries

/-- Why a field of a record has no literal. -/
def fieldsFault? : List (String × Value) → Option Misuse
  | [] => none
  | (_, v) :: rest => v.literalFault?.or (fieldsFault? rest)
termination_by structural fields => fields

end

/-! ## Plain texts -/

/-- Why the value is no plain text. -/
def displayFault? (v : Value) : Option Misuse :=
  if v.lacks "__str__" then some .wrongType else v.literalFault?

/-- The value as plain text, or why it is none. -/
def shownText (v : Value) : Except Misuse String :=
  match v.displayFault? with
  | some m => .error m
  | none => .ok v.display

end SolidityWire.Value
