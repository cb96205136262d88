/-
Formulas: expressions over values, with names, operators, look-ups and calls. A template is text
with formulas to fill in.
-/
import SolidityWire.Value.Basic

namespace SolidityWire

namespace Formula

/-- An operator in front of a formula. -/
inductive UnaryOp where
  | plus | minus | invert | negate
  deriving DecidableEq, Inhabited, Repr

/-- An operator between two formulas. -/
inductive BinaryOp where
  | add | sub | mul | matMul | div | floorDiv | mod | pow
  | shiftLeft | shiftRight | bitAnd | bitXor | bitOr
  deriving DecidableEq, Inhabited, Repr

/-- A comparison. -/
inductive CompareOp where
  | eq | ne | lt | le | gt | ge | isIn | notIn | same | notSame
  deriving DecidableEq, Inhabited, Repr

/-- How a value is written where a template fills it in: as plain text, or as a literal, which may
be of ASCII alone. -/
inductive Conversion where
  | plain | literal | asciiLiteral
  deriving DecidableEq, Inhabited, Repr

/-- How an argument is given to a call; one that gives values one by one has to be the only one. -/
inductive ArgumentKind where
  | plain
  | onlyOne
  | named (name : String)
  | items
  | entries
  deriving DecidableEq, Inhabited, Repr

end Formula

mutual

/-- A formula; `each` is a list with a value for each item of another that fulfils the conditions.
What has a form but is never worked out is `unused`. -/
inductive Formula where
  | constant (v : Value)
  | name (s : String)
  | template (pieces : List Formula.Piece)
  | tuple (items : List Formula)
  | list (items : List Formula)
  | set (items : List Formula)
  | dict (entries : List (Option Formula × Formula))
  | unary (op : Formula.UnaryOp) (a : Formula)
  | binary (op : Formula.BinaryOp) (a b : Formula)
  | compare (first : Formula) (rest : List (Formula.CompareOp × Formula))
  | both (a b : Formula)
  | either (a b : Formula)
  | choose (condition yes no : Formula)
  | assign (name : String) (value : Formula)
  | field (a : Formula) (name : String)
  | item (a index : Formula)
  | slice (start stop step : Option Formula)
  | call (f : Formula) (arguments : List (Formula.ArgumentKind × Formula))
  | spread (a : Formula)
  | each (value : Formula) (name : String) (items : Formula) (conditions : List Formula)
  | unused (parts : List Formula)

/-- A piece of a template: text, or a formula with how its value is written. -/
inductive Formula.Piece where
  | text (s : String)
  | fill (f : Formula) (conversion : Option Formula.Conversion) (spec : List Formula.Piece)

end

instance : Inhabited Formula := ⟨.tuple []⟩

instance : Inhabited Formula.Piece := ⟨.text ""⟩

end SolidityWire
