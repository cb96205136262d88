/-
Values that contain themselves: a labelled value is opened by putting the whole of it where its
label stands again, so that what is found inside is complete on its own.
-/
import SolidityWire.Value.Basic

namespace SolidityWire.Value

mutual

/-- The value with `whole` at every place where the label stands again. -/
def replaceAgain (label : Nat) (whole : Value) : Value → Value
  | again l => if l = label then whole else again l
  | labelled l v => if l = label then labelled l v else labelled l (replaceAgain label whole v)
  | list items => list (replaceInItems label whole items)
  | set items => set (replaceInItems label whole items)
  | tuple items => tuple (replaceInItems label whole items)
  | dict entries => dict (replaceInEntries label whole entries)
  | v => v
termination_by structural v => v

/-- Several values with `whole` where the label stands again. -/
def replaceInItems (label : Nat) (whole : Value) : List Value → List Value
  | [] => []
  | v :: vs => replaceAgain label whole v :: replaceInItems label whole vs
termination_by structural vs => vs

/-- Entries with `whole` where the label stands again. -/
def replaceInEntries (label : Nat) (whole : Value) : List (Value × Value) → List (Value × Value)
  | [] => []
  | (k, v) :: rest =>
    (replaceAgain label whole k, replaceAgain label whole v) :: replaceInEntries label whole rest
termination_by structural entries => entries

end

/-- The value without its own label. -/
def opened : Value → Value
  | labelled label v => replaceAgain label (labelled label v) v
  | v => v

end SolidityWire.Value
