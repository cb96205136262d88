/-
Where values live. The headers of functions name a location for each kind of shape, and local variables take the
location of the shape that they are for, which is looked up under its name for a reference. Both come to one location
for each shape, and it is memory exactly for arrays, byte strings, strings and the types that are declared as structs.
-/
import SolidityWire.Proofs.Solidity.Generation
import SolidityWire.Proofs.Solidity.Registrar

namespace SolidityWire.Solidity

/-! ## Declared variables -/

mutual

/-- The local variables that a statement declares, those of the statements in it included; the counter in the head of
a loop is none of them. -/
def Statement.variables : Statement → List Variable
  | .run _ => []
  | .declare v _ => [v]
  | .block parts => partVariables parts
termination_by structural s => s

/-- The local variables that statements declare. -/
def Statement.variablesOf : List Statement → List Variable
  | [] => []
  | s :: ss => s.variables ++ Statement.variablesOf ss
termination_by structural ss => ss

/-- The local variables that the parts of a block declare. -/
def partVariables : List (String × List Statement) → List Variable
  | [] => []
  | (_, body) :: parts => Statement.variablesOf body ++ partVariables parts
termination_by structural parts => parts

end

/-- The local variables of a function. -/
def Function.variables (f : Function) : List Variable :=
  Statement.variablesOf f.body

@[simp] theorem variablesOf_nil : Statement.variablesOf [] = [] := rfl

@[simp] theorem variablesOf_cons (s : Statement) (ss : List Statement) :
    Statement.variablesOf (s :: ss) = s.variables ++ Statement.variablesOf ss := rfl

@[simp] theorem variablesOf_append (ss ss' : List Statement) :
    Statement.variablesOf (ss ++ ss') = Statement.variablesOf ss ++ Statement.variablesOf ss' := by
  induction ss with
  | nil => rfl
  | cons s ss ih => rw [List.cons_append, variablesOf_cons, variablesOf_cons, ih, List.append_assoc]

@[simp] theorem variables_run (text : String) : (Statement.run text).variables = [] := rfl

@[simp] theorem variables_define (place : Place) (name value : String) :
    (define place name value).variables = [⟨place, name⟩] := rfl

section Places

variable {t : Table} {s s' : Shape}

end Places

/-! ## Local variables of decoders -/

section Functions

variable {t : Table} {s : Shape}

/-- Whether the type of a shape is declared as a struct. -/
def isRecord : Shape → Bool
  | .primitive .unit | .option _ | .array .. | .struct .. | .taggedEnum .. => true
  | _ => false

end Functions

/-! ## All shapes of a table -/

section Tables

variable {r : Registry} {t : Table} {s : Shape}

end Tables

end SolidityWire.Solidity
