/-
Refusals of a choice that no variant has. The words are worked out from a statement that raises an
error: the key of the tagged enumeration stands at its end, inside a template, and takes part in it
as it is written. A key of letters, digits and underscores stands for itself.
-/
import SolidityWire.Formula.Evaluation
import SolidityWire.Formula.OfTokens

namespace SolidityWire.Codec

open Formula

/-- A refusal: what is raised, and the cause that it names if any. -/
structure Refusal where
  raised : Formula
  cause : Option Formula := none
  deriving Inhabited

namespace Refusal

/-! ## Statements -/

/-- The operators that change what a name stands for. -/
def changeSigns : List String :=
  ["+=", "-=", "*=", "/=", "//=", "%=", "@=", "&=", "|=", "^=", ">>=", "<<=", "**="]

/-- Whether a formula may be changed on its own. -/
def isPlace : Formula → Bool
  | .name _ | .field .. | .item .. => true
  | _ => false

/-- Whether a row of formulas may be given a value. -/
def isRowTarget : Formula → Bool
  | .spread _ => false
  | f => isTarget f

/-- What follows a row of formulas, which may be given to others. -/
def behindRow? : (fuel : Nat) → List Token → Option (List Token)
  | 0, _ => none
  | n + 1, ts => do
    let (f, ts) ← readRow n ts
    match ts with
    | .sign "=" :: ts => if isRowTarget f then behindRow? n ts else none
    | .sign ":" :: ts => do
      if !isPlace f then none
      let (_, ts) ← readFormula n ts
      match ts with
      | .sign "=" :: ts => (readRow n ts).map Prod.snd
      | ts => return ts
    | .sign s :: ts =>
      if changeSigns.contains s then
        if isPlace f then (readRow n ts).map Prod.snd else none
      else some (.sign s :: ts)
    | ts => some ts

/-- What follows names with points or commas between them. -/
def behindNames? (between : String) : List Token → Option (List Token)
  | .word w :: .sign s :: ts =>
    if keywords.contains w then none
    else if s = between then behindNames? between ts
    else some (.sign s :: ts)
  | .word w :: ts => if keywords.contains w then none else some ts
  | _ => none

/-- What follows a condition, and words about it if any. -/
def behindCondition? (n : Nat) (ts : List Token) : Option (List Token) := do
  let (_, ts) ← readFormula n ts
  match ts with
  | .sign "," :: ts => (readFormula n ts).map Prod.snd
  | ts => return ts

/-- The statement that raises an error, behind its first word, and what follows it. -/
def read? (n : Nat) (ts : List Token) : Option (Refusal × List Token) := do
  let (f, ts) ← readFormula n ts
  match ts with
  | .word "from" :: ts => do
    let (cause, ts) ← readFormula n ts
    return (⟨f, some cause⟩, ts)
  | ts => return (⟨f, none⟩, ts)

/-- What follows a statement on one line. -/
def behindStatement? (n : Nat) : List Token → Option (List Token)
  | .word "pass" :: ts => some ts
  | .word "return" :: ts => if endsRow ts then some ts else (readRow n ts).map Prod.snd
  | .word "raise" :: ts => if endsRow ts then some ts else (read? n ts).map Prod.snd
  | .word "assert" :: ts => behindCondition? n ts
  | .word "import" :: ts => behindNames? "." ts
  | .word "global" :: ts => behindNames? "," ts
  | ts => behindRow? n ts

/-- The reason that a line is not indented as it has to be. -/
def badIndent : Misuse := .raised "IndentationError"

/-- How far a line may be indented behind lines of some indent: as far, or less by whole blocks. A
line without an indent has no place before the lines that follow, but is read first. -/
def checkIndent (indent m : Nat) : Except Misuse Nat :=
  if m = indent ∨ (m < indent ∧ m % 4 = 0) then .ok m else .error badIndent

/-- Refuses what follows a refusal unless it is statements, on the same line or on further ones. -/
def checkStatements (n : Nat) : (fuel indent : Nat) → List Token → Except Misuse Unit
  | 0, _, _ => .error .illFormed
  | _ + 1, indent, [] | _ + 1, indent, [.sign ";"] =>
    if indent = 0 then .error badIndent else .ok ()
  | fuel + 1, indent, .sign ";" :: .line m :: ts =>
    checkStatements n fuel indent (.line m :: ts)
  | fuel + 1, indent, .sign ";" :: ts =>
    match behindStatement? n ts with
    | some ts => checkStatements n fuel indent ts
    | none => .error .illFormed
  | fuel + 1, indent, .line m :: ts => do
    let indent ← checkIndent indent m
    match behindStatement? n ts with
    | some ts => checkStatements n fuel indent ts
    | none => throw .illFormed
  | _ + 1, _, _ => .error .illFormed

/-! ## Reading -/

/-- The name of the class of errors that refusals are of. -/
def errorName : String := ""

/-- The text of a refusal behind the name of the class of errors. -/
def textOf (key : String) : List Char :=
  plainLines ("(f\"Invalid variant index \x7bchoice\x7d for " ++ key ++ "\")").toList

/-- The refusal that a key makes, or what is wrong with it. -/
def ofKey (key : String) : Except Misuse Refusal := do
  let text := textOf key
  let fuel := 30 * (text.length + 4)
  match read? fuel (.word errorName :: tokens text) with
  | some (r, rest) => do
    checkStatements fuel fuel 8 rest
    return r
  | none => throw .illFormed

/-! ## Raising -/

/-- The class and the words of the error that a value is; a class stands for an error of it. -/
def error? (v : Value) : Option (String × String) :=
  match v, className? v with
  | .foreign words c, none => if isErrorName (lastPart c) then some (c, words) else none
  | _, some c => if isErrorName (lastPart c) then some (c, "") else none
  | _, none => none

/-- Whether a value may be the cause of an error. -/
def isCause : Value → Bool
  | .null => true
  | v => (error? v).isSome

/-- The class and the words of the error that is raised. -/
def raise (r : Refusal) (s : Setting) (given : List (String × Value)) :
    Except Misuse (String × String) := do
  let (v, given) ← (value s r.raised).run given
  let cause ← match r.cause with
    | some f => (value s f).run' given
    | none => pure .null
  match error? v with
  | some raised => if isCause cause then return raised else throw .wrongType
  | none => throw .wrongType

end Refusal

end SolidityWire.Codec
