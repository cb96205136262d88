/-
Values of formulas. Names have values given from outside, some of which a formula may change; parts
are worked out from left to right, and only as far as they are needed.
-/
import SolidityWire.Formula.Braced
import SolidityWire.Formula.Method

namespace SolidityWire

namespace Formula

/-! ## Settings -/

/-- What is known where a formula is worked out: items that names stand for, names that will get a
value only later, names that stand for the same everywhere, and the fields of values. -/
structure Setting where
  bound : List (String × Value) := []
  later : List String := []
  shared : List (String × Value) := []
  field : Value → String → Except Misuse Value

/-- A step that may give names values. -/
abbrev Run := StateT (List (String × Value)) (Except Misuse)

/-- The value of a name, by what has been given to it. -/
def Setting.lookUp (s : Setting) (given : List (String × Value)) (name : String) :
    Except Misuse Value :=
  match (s.bound.lookup name).or (given.lookup name) with
  | some v => .ok v
  | none =>
    if s.later.contains name then .error .unassigned
    else
      match (s.shared.lookup name).or (standing? name) with
      | some v => .ok v
      | none => .error .unknownName

/-- The value of a field; each value has its class, and classes and functions have names. -/
def Setting.fieldOf (s : Setting) (v : Value) (name : String) : Except Misuse Value :=
  match name, (functionName? v).or (className? v) with
  | "__class__", _ => .ok (classOf v)
  | "__name__", some n | "__qualname__", some n => .ok (.text (lastPart n))
  | "args", none => if isErrorValue v then .ok (.tuple [.text v.literal]) else s.field v name
  | _, _ => s.field v name

/-- What a function or a class gives; some functions look up fields. -/
def Setting.callFor (s : Setting) (f : Value) (plain : List Value)
    (named : List (String × Value)) : Except Misuse Value :=
  match functionName? f, plain with
  | some "getattr", [v, .text n] => s.fieldOf v n
  | some "getattr", [v, .text n, w] => .ok (((s.fieldOf v n).toOption).getD w)
  | some "hasattr", [v, .text n] => .ok (.boolean (s.fieldOf v n).toOption.isSome)
  | _, _ => callValue f plain named

/-! ## Parts of calls and templates -/

/-- The arguments of a call: those by place, and those by name. -/
abbrev Arguments := List Value × List (String × Value)

/-- The entries of a mapping that are arguments by name. -/
def namedOf (v : Value) : Except Misuse (List (String × Value)) :=
  match v with
  | .dict entries =>
    entries.mapM fun
      | (.text n, w) => .ok (n, w)
      | _ => .error .wrongType
  | _ => .error .wrongType

/-- One more argument before others. -/
def addArgument (kind : ArgumentKind) (v : Value) (rest : Arguments) : Except Misuse Arguments := do
  let (plain, named) := rest
  match kind with
  | .plain | .onlyOne => return (v :: plain, named)
  | .items => return ((← itemsOf v) ++ plain, named)
  | .named n =>
    if (named.lookup n).isSome then throw .wrongType else return (plain, (n, v) :: named)
  | .entries => do
    let front ← namedOf v
    if front.any fun (n, _) => (named.lookup n).isSome then throw .wrongType
    return (plain, front ++ named)

/-- What an operation of a value gives; only filling in fields takes arguments by name. -/
def Setting.callOperation (s : Setting) (v : Value) (name : String) (plain : List Value)
    (named : List (String × Value)) : Except Misuse Value :=
  match v, name, plain with
  | .text t, "format", _ => filledFields s.fieldOf t plain named
  | .text t, "format_map", [m] => do filledFields s.fieldOf t [] (← namedOf m)
  | _, _, _ => if named.isEmpty then callMethod v name plain else .error .wrongType

/-- The literal of bounds. -/
def sliceLiteral (start stop step : Value) : String :=
  "slice(" ++ start.literal ++ ", " ++ stop.literal ++ ", " ++ step.literal ++ ")"

/-- What becomes of each item, without those that are left out. -/
def forItems {m : Type → Type} [Monad m] (f : Value → m (Option Value)) :
    List Value → m (List Value)
  | [] => return []
  | v :: vs => do
    let front ← f v
    return front.toList ++ (← forItems f vs)

/-! ## Evaluation -/

mutual

/-- The value of a formula. -/
def value (s : Setting) : Formula → Run Value
  | .constant v => return v
  | .name n => do s.lookUp (← get) n
  | .template pieces => do return .text (String.ofList (← filled s pieces))
  | .tuple items => return .tuple (← values s items)
  | .list items => return .list (← values s items)
  | .set items => do setOf (← values s items)
  | .dict entries => do dictOf (← entryValues s entries)
  | .unary op a => do op.apply (← value s a)
  | .binary op a b => do
    let v ← value s a
    op.apply v (← value s b)
  | .compare a rest => do
    let v ← value s a
    return .boolean (← allHold s v rest)
  | .both a b => do
    let v ← value s a
    if v.isTrue then value s b else return v
  | .either a b => do
    let v ← value s a
    if v.isTrue then return v else value s b
  | .choose condition yes no => do
    if (← value s condition).isTrue then value s yes else value s no
  | .assign n a => do
    let v ← value s a
    modify ((n, v) :: ·)
    return v
  | .field a n => do s.fieldOf (← value s a) n
  | .item a (.slice start stop step) => do
    let v ← value s a
    let start ← boundValue s start
    let stop ← boundValue s stop
    v.slice start stop (← boundValue s step)
  | .item a index => do
    let v ← value s a
    v.item (← value s index)
  | .slice start stop step => do
    let start ← boundValue s start
    let stop ← boundValue s stop
    return .foreign (sliceLiteral start stop (← boundValue s step)) "slice"
  | .call (.field a n) arguments => do
    let v ← value s a
    if hasMethod v n then
      let (plain, named) ← argumentValues s arguments
      s.callOperation v n plain named
    else
      let f ← s.fieldOf v n
      let (plain, named) ← argumentValues s arguments
      s.callFor f plain named
  | .call f arguments => do
    let f ← value s f
    let (plain, named) ← argumentValues s arguments
    s.callFor f plain named
  | .spread _ => throw .illFormed
  | .each a n items conditions => do
    let items ← itemsOf (← value s items)
    return .list (← forItems (fun v => do
      let s := { s with bound := (n, v) :: s.bound }
      if ← allTrue s conditions then return some (← value s a) else return none) items)
  | .unused _ => return .foreign "<function>" "function"
termination_by structural f => f

/-- The values of formulas, of which some stand for all of their items. -/
def values (s : Setting) : List Formula → Run (List Value)
  | [] => return []
  | .spread a :: rest => do
    let front ← itemsOf (← value s a)
    return front ++ (← values s rest)
  | a :: rest => do
    let v ← value s a
    return v :: (← values s rest)
termination_by structural fs => fs

/-- Whether formulas have true values, up to the first that has not. -/
def allTrue (s : Setting) : List Formula → Run Bool
  | [] => return true
  | a :: rest => do
    if (← value s a).isTrue then allTrue s rest else return false
termination_by structural fs => fs

/-- The value of a bound, null if it is not given. -/
def boundValue (s : Setting) : Option Formula → Run Value
  | none => return .null
  | some a => value s a
termination_by structural f => f

/-- The values of entries, of which some stand for all entries of a mapping. -/
def entryValues (s : Setting) : List (Option Formula × Formula) → Run (List (Value × Value))
  | [] => return []
  | (none, a) :: rest => do
    match ← value s a with
    | .dict entries => return entries ++ (← entryValues s rest)
    | _ => throw .wrongType
  | (some k, a) :: rest => do
    let key ← value s k
    let v ← value s a
    return (key, v) :: (← entryValues s rest)
termination_by structural entries => entries

/-- Whether a value compares with the next one, and that with the one behind it. -/
def allHold (s : Setting) (v : Value) : List (CompareOp × Formula) → Run Bool
  | [] => return true
  | (op, a) :: rest => do
    let w ← value s a
    if ← op.holds v w then allHold s w rest else return false
termination_by structural rest => rest

/-- The arguments of a call. -/
def argumentValues (s : Setting) : List (ArgumentKind × Formula) → Run Arguments
  | [] => return ([], [])
  | (kind, a) :: rest => do
    let v ← value s a
    addArgument kind v (← argumentValues s rest)
termination_by structural arguments => arguments

/-- The characters of a template. -/
def filled (s : Setting) : List Piece → Run (List Char)
  | [] => return []
  | .text t :: rest => do return t.toList ++ (← filled s rest)
  | .fill a conversion spec :: rest => do
    let v ← value s a
    let front ← shown conversion (← filled s spec) v
    return front ++ (← filled s rest)
termination_by structural pieces => pieces

end

/-- The value of a formula where names have been given values. -/
def result (s : Setting) (given : List (String × Value)) (f : Formula) : Except Misuse Value :=
  ((value s f).run given).map Prod.fst

end Formula

end SolidityWire
