/-
Options on a command line. A long option may be shortened as long as it stays the only one, its
value may follow an equality sign; short options may share one hyphen, and the value of the last of
them may be attached to it.
-/
import SolidityWire.Text.Digit

namespace SolidityWire.CommandLine

/-! ## Flags -/

/-- An option by its names, and whether it takes a value. -/
structure Flag where
  short : String := ""
  long : String
  takesValue : Bool := false
  deriving DecidableEq, Inhabited, Repr

/-- The names of an option. -/
def Flag.names (f : Flag) : List String :=
  [f.short, f.long].filter (!·.isEmpty)

/-- The option of a name. -/
def named? (flags : List Flag) (name : String) : Option Flag :=
  flags.find? (·.names.contains name)

/-! ## Arguments -/

/-- What an argument is: an operand, or an option with the value that is attached to it. -/
inductive Argument where
  | operand
  | flag (f : Flag) (name : String) (attached : Option (List Char))
  | unknown
  | ambiguous
  deriving Inhabited

/-- A text in two, at its first equality sign. -/
def splitEquals (cs : List Char) : List Char × Option (List Char) :=
  match cs.dropWhile (· ≠ '=') with
  | [] => (cs, none)
  | _ :: value => (cs.takeWhile (· ≠ '='), some value)

/-- The options that a shortened long option may mean, by their names. -/
def longCandidates (flags : List Flag) (cs : List Char) :
    List (Flag × String × Option (List Char)) :=
  let (start, value) := splitEquals cs
  flags.flatMap fun f =>
    (f.names.filter fun name => start.isPrefixOf name.toList).map fun name => (f, name, value)

/-- The options that a hyphen and a letter with more behind it may mean. -/
def shortCandidates (flags : List Flag) (cs : List Char) :
    List (Flag × String × Option (List Char)) :=
  flags.flatMap fun f => f.names.filterMap fun name =>
    if name.toList = cs.take 2 then some (f, name, some (cs.drop 2))
    else if cs.isPrefixOf name.toList then some (f, name, none)
    else none

/-- Whether the text is a hyphen and a number in the digits of any script, maybe with a line feed at
its end. -/
def isNegativeNumber (cs : List Char) : Bool :=
  match cs with
  | '-' :: body =>
    let body := if body.getLast? = some '\n' then body.dropLast else body
    match body.dropWhile Text.isDigit with
    | [] => !body.isEmpty
    | '.' :: ds => !ds.isEmpty && ds.all Text.isDigit
    | _ => false
  | _ => false

/-- What an argument is that no option has as its name. -/
def guess (flags : List Flag) (cs : List Char) : Argument :=
  let candidates :=
    if cs.take 2 = ['-', '-'] then longCandidates flags cs else shortCandidates flags cs
  match candidates with
  | [(f, name, attached)] => .flag f name attached
  | _ :: _ :: _ => .ambiguous
  | [] => if isNegativeNumber cs || cs.contains ' ' then .operand else .unknown

/-- What an argument is; a hyphen alone is an operand. -/
def classify (flags : List Flag) (arg : String) : Argument :=
  let cs := arg.toList
  if cs.head? ≠ some '-' ∨ cs.length = 1 then .operand
  else
    match named? flags arg with
    | some f => .flag f arg none
    | none =>
      let (start, value) := splitEquals cs
      match value, named? flags (String.ofList start) with
      | some v, some f => .flag f (String.ofList start) (some v)
      | _, _ => guess flags cs

/-- Whether the argument is an operand. -/
def isOperand (flags : List Flag) (arg : String) : Bool :=
  match classify flags arg with
  | .operand => true
  | _ => false

/-! ## Uses -/

/-- An option that was given, with its value if it takes one. -/
abbrev Use := Flag × Option String

/-- The uses that a short option and what is attached to it stand for, without the last one's value
if it is not attached; `none` if they stand for nothing. -/
def cluster (flags : List Flag) (f : Flag) : List Char → Option (List Use × Option Flag)
  | cs@(c :: rest) =>
    if f.takesValue then some ([(f, some (String.ofList cs))], none)
    else
      match named? flags (String.ofList ['-', c]) with
      | none => none
      | some g =>
        if rest.isEmpty then some ([(f, none)], some g)
        else (cluster flags g rest).map fun (uses, last) => ((f, none) :: uses, last)
  | [] => if f.takesValue then some ([(f, some "")], none) else none

/-- The use of an option whose value, if it takes one, is the next argument; with the arguments
behind it. -/
def useNext (flags : List Flag) (f : Flag) (args : List String) : Option (Use × List String) :=
  if f.takesValue then
    match args with
    | v :: rest => if v ≠ "--" ∧ isOperand flags v then some ((f, some v), rest) else none
    | [] => none
  else some ((f, none), args)

/-- The uses that an option with its attached value stands for, and the arguments behind it; `none`
if they do not fit together. -/
def uses (flags : List Flag) (f : Flag) (name : String) (attached : Option (List Char))
    (args : List String) : Option (List Use × List String) :=
  match attached with
  | none => (useNext flags f args).map fun (u, rest) => ([u], rest)
  | some cs =>
    if f.takesValue then some ([(f, some (String.ofList cs))], args)
    else if "--".toList.isPrefixOf name.toList then none
    else
      match cluster flags f cs with
      | none => none
      | some (front, none) => some (front, args)
      | some (front, some g) => (useNext flags g args).map fun (u, rest) => (front ++ [u], rest)

end SolidityWire.CommandLine
