/-
What is wrong with the use of a codec rather than with the data: names that cannot be those of types
and fields, values that a function cannot work on, and formulas that have no result.
-/

namespace SolidityWire

/-- A way to use a codec wrongly. -/
inductive Misuse where
  | wrongType
  | badValue
  | noField
  | noItem
  | noKey
  | unknownName
  | unassigned
  | divisionByZero
  | tooLarge
  | illFormed
  | noEncoding
  | tooDeep
  | raised (className : String)
  deriving DecidableEq, Inhabited, Repr

end SolidityWire
