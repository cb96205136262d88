/-
Literals among formulas: constants, signed numbers, and collections of literals. A literal has a
value without any setting.
-/
import SolidityWire.Formula.Function
import SolidityWire.Formula.OfTokens

namespace SolidityWire

namespace Formula

/-- The number that a formula writes without a sign. -/
def numeral? : Formula → Option Value
  | .constant (.integer n) => some (.integer n)
  | .constant (.float x) => some (.float x)
  | .constant (.foreign s "complex") => some (.foreign s "complex")
  | _ => none

/-- The number that a formula writes, with a sign if any. -/
def signedNumeral? : Formula → Option Value
  | .unary .plus a => numeral? a
  | .unary .minus a => do
    match ← numeral? a with
    | .foreign s c => return .foreign ("-" ++ s) c
    | v => (numberUnary .minus v).toOption
  | a => numeral? a

/-- The number that has a real and an imaginary part. -/
def complexNumeral? (a b : Formula) : Option Value := do
  match ← signedNumeral? a, ← numeral? b with
  | .foreign .., _ => none
  | v, .foreign s c => some (.foreign ("(" ++ v.literal ++ "+" ++ s ++ ")") c)
  | _, _ => none

mutual

/-- The value of a literal; what sets and keys hold must not change in place. -/
def literal? : Formula → Option Value
  | .constant v => some v
  | .tuple items => (literals? items).map .tuple
  | .list items => (literals? items).map .list
  | .set items => do (setOf (← literals? items)).toOption
  | .dict entries => do (dictOf (← literalEntries? entries)).toOption
  | .call (.name "set") [] => some (.set [])
  | .unary op a => signedNumeral? (.unary op a)
  | .binary .add a b | .binary .sub a b => complexNumeral? a b
  | _ => none
termination_by structural f => f

/-- The values of literals. -/
def literals? : List Formula → Option (List Value)
  | [] => some []
  | f :: fs => do
    let v ← literal? f
    return v :: (← literals? fs)
termination_by structural fs => fs

/-- The values of keys and values that are literals. -/
def literalEntries? : List (Option Formula × Formula) → Option (List (Value × Value))
  | [] => some []
  | (some k, f) :: rest => do
    let key ← literal? k
    let v ← literal? f
    return (key, v) :: (← literalEntries? rest)
  | (none, _) :: _ => none
termination_by structural entries => entries

end

/-- The value of a literal by its text, which may be a row of literals. -/
def literalOf? (cs : List Char) : Option Value := do
  if cs.any fun c => c = '\x00' || Text.isLoneHalf c then none
  match readRow (30 * (cs.length + 4)) (tokens (plainLines cs)) with
  | some (f, []) => literal? f
  | _ => none

end Formula

end SolidityWire
