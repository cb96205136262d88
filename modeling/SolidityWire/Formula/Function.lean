/-
What functions and classes give when they are called: conversions between kinds of values, and
operations on numbers, texts and lists.
-/
import SolidityWire.Formula.Name
import SolidityWire.Formula.Placeholder
import SolidityWire.Formula.Token

namespace SolidityWire.Formula

/-! ## Operators on values -/

/-- An operator on two values. -/
def BinaryOp.apply (op : BinaryOp) (a b : Value) : Except Misuse Value :=
  match numberBinary? op a b with
  | some result => result
  | none =>
    match op, a, b with
    | .add, .text s, .text t => .ok (.text (s ++ t))
    | .add, .bytes s, .bytes t => .ok (.bytes (s ++ t))
    | .add, .list s, .list t => .ok (.list (s ++ t))
    | .add, .tuple s, .tuple t => .ok (.tuple (s ++ t))
    | .mul, a, b =>
      match b.wholeNumber?, a.wholeNumber? with
      | some n, _ => a.times n
      | none, some n => b.times n
      | none, none => .error .wrongType
    | .mod, .text s, v => filledText s v
    | .bitOr, .dict s, .dict t =>
      .ok (.dict (t.foldl (fun done (k, v) => Value.putEntry done k v) s))
    | .bitOr, .set s, .set t => .ok (.set (Value.union s t))
    | .bitAnd, .set s, .set t => .ok (.set (s.filter fun v => t.any v.sameKey))
    | .sub, .set s, .set t => .ok (.set (s.filter fun v => !t.any v.sameKey))
    | .bitXor, .set s, .set t =>
      .ok (.set ((s.filter fun v => !t.any v.sameKey) ++ t.filter fun v => !s.any v.sameKey))
    | _, _, _ => .error .wrongType

/-- An operator in front of a value. -/
def UnaryOp.apply (op : UnaryOp) (v : Value) : Except Misuse Value :=
  match op with
  | .negate => .ok (.boolean !v.isTrue)
  | op => numberUnary op v

/-- Whether two values compare in one of some ways. -/
def isOrdered (a b : Value) (ways : List Ordering) : Except Misuse Bool :=
  (a.order b).map fun
    | some o => ways.contains o
    | none => false

/-- A comparison of two values. -/
def CompareOp.holds (op : CompareOp) (a b : Value) : Except Misuse Bool :=
  let isSame := a.classLiteral == b.classLiteral && a.equal b
  match op with
  | .eq => .ok (a.equal b)
  | .ne => .ok !a.equal b
  | .lt => isOrdered a b [.lt]
  | .le => isOrdered a b [.lt, .eq]
  | .gt => isOrdered a b [.gt]
  | .ge => isOrdered a b [.gt, .eq]
  | .isIn => b.holds a
  | .notIn => (b.holds a).map (!·)
  | .same => .ok isSame
  | .notSame => .ok !isSame

/-! ## Items -/

/-- The items of a value. -/
def itemsOf (v : Value) : Except Misuse (List Value) :=
  match v.items? with
  | some items => .ok items
  | none => .error .wrongType

/-- The set of some values. -/
def setOf (items : List Value) : Except Misuse Value :=
  if items.all Value.isHashable then .ok (.set (Value.union [] items)) else .error .wrongType

/-- The mapping of some entries. -/
def dictOf (entries : List (Value × Value)) : Except Misuse Value :=
  if entries.all fun (k, _) => k.isHashable then .ok (Value.dictOf entries) else .error .wrongType

/-- A list in order with a value put behind those that are not greater. -/
def insertOrdered (v : Value) : List Value → Except Misuse (List Value)
  | [] => .ok [v]
  | w :: ws => do
    if ← isOrdered v w [.lt] then return v :: w :: ws
    else return w :: (← insertOrdered v ws)

/-- Values in order. -/
def ordered (items : List Value) : Except Misuse (List Value) :=
  items.foldlM (fun done v => insertOrdered v done) []

/-- The first of the values that compares with all others in one way. -/
def extreme (way : Ordering) : List Value → Except Misuse Value
  | [] => .error .badValue
  | v :: vs => vs.foldlM (fun best w => do return if ← isOrdered w best [way] then w else best) v

/-- The sum of values. -/
def sumFrom (start : Value) (items : List Value) : Except Misuse Value :=
  match start with
  | .text _ | .bytes _ => .error .wrongType
  | start => items.foldlM BinaryOp.add.apply start

/-! ## Numbers -/

/-- The value of a digit or a letter in bases up to thirty-six. -/
def digitOf? (c : Char) : Option Nat :=
  if c.isDigit then some (c.toNat - 48)
  else if c.isAlpha then some (c.toLower.toNat - 87)
  else none

/-- Whether a letter says that digits to the base follow. -/
def marksBase (base : Nat) (c : Char) : Bool :=
  match baseOf? c with
  | some (b, _) => b = base
  | none => false

/-- The whole number that a text writes to a base. -/
def wholeOfText (base : Nat) (s : String) : Except Misuse Value :=
  let (isNegative, cs) := match Binary64.dropSeparators (Text.numeral s.toList) with
    | '-' :: cs => (true, cs)
    | '+' :: cs => (false, cs)
    | cs => (false, cs)
  let cs := match cs with
    | '0' :: c :: ds => if marksBase base c then ds else cs
    | cs => cs
  let isTooLong := base = 10 ∧ Text.mostDigits < cs.length
  if cs.isEmpty ∨ isTooLong ∨ !cs.all fun c => (digitOf? c).any (· < base) then .error .badValue
  else
    let n : Int := cs.foldl (fun n c => n * base + (digitOf? c).getD 0) 0
    .ok (.integer (if isNegative then -n else n))

/-- A value as a whole number. -/
def wholeOf (v : Value) : Except Misuse Value :=
  match v with
  | .text s => wholeOfText 10 s
  | v => (Placeholder.truncated v).map .integer

/-- A value as a floating-point number. -/
def floatOf (v : Value) : Except Misuse Value :=
  match v, asFloat? v with
  | .text s, _ =>
    match Binary64.ofText? s with
    | some x => .ok (.float x)
    | none => .error .badValue
  | .float x, _ => .ok (.float x)
  | _, some (.infinite _) => .error .tooLarge
  | _, some x => .ok (.float x)
  | _, none => .error .wrongType

/-- The literal of a whole number to a base. -/
def basedLiteral (base : Nat) (mark : String) (v : Value) : Except Misuse Value :=
  match v.wholeNumber? with
  | some n =>
    let digits := String.ofList (Nat.toDigits base n.natAbs)
    .ok (.text ((if n < 0 then "-" else "") ++ mark ++ digits))
  | none => .error .wrongType

/-- The magnitude of a number. -/
def magnitudeOf (v : Value) : Except Misuse Value :=
  match v, v.wholeNumber? with
  | .float x, _ =>
    .ok (.float (match x with
      | .nan => .nan
      | .infinite _ => .infinite false
      | .finite _ m e => .finite false m e))
  | _, some n => .ok (.integer n.natAbs)
  | _, none => .error .wrongType

/-- The nearest whole number, a tie goes to the even one. -/
def rounded (v : Value) : Except Misuse Value :=
  match v, v.wholeNumber? with
  | .float .nan, _ => .error .badValue
  | .float (.infinite _), _ => .error .tooLarge
  | .float (.finite isNegative m e), _ =>
    let (num, den) := Decimal.fraction m e
    let n := Binary64.roundDiv num den
    .ok (.integer (if isNegative then -(n : Int) else n))
  | _, some n => .ok (.integer n)
  | _, none => .error .wrongType

/-- A number rounded to places behind the point. -/
def roundedTo (v : Value) (places : Int) : Except Misuse Value :=
  match v, v.wholeNumber? with
  | .float x, _ => do
    let layout : Layout := { precision := some places.toNat, kind := some 'f' }
    floatOf (.text (String.ofList (← layout.float x)))
  | _, some n =>
    let unit : Nat := 10 ^ places.natAbs
    let m : Int := Binary64.roundDiv n.natAbs unit * unit
    .ok (.integer (if 0 ≤ places then n else if n < 0 then -m else m))
  | _, none => .error .wrongType

/-- The number by which a whole number is found again: its rest by a prime, but never minus one. -/
def hashOf (n : Int) : Int :=
  let rest := n.tmod (2 ^ 61 - 1)
  if rest = -1 then -2 else rest

/-! ## Classes -/

/-- The class of a value, as a value. -/
def classOf (v : Value) : Value :=
  match v with
  | .member .. => .foreign v.classLiteral "enum.EnumType"
  | v => .foreign v.classLiteral "type"

/-- Whether the value belongs to a class; truth values and members are whole numbers as well. -/
def belongsTo (v c : Value) : Bool :=
  c.equal (classOf v) || c.equal (classValue "object") ||
    (c.equal (classValue "int") && v.wholeNumber?.isSome)

/-- The words of an error with arguments; a key is written as a literal. -/
def errorWords (className : String) (arguments : List Value) : Except Misuse String :=
  match arguments with
  | [] => .ok ""
  | [v] => if className = "KeyError" then literalText v else v.shownText
  | vs => literalText (.tuple vs)

/-- The octet that a whole number is. -/
def octetOf (v : Value) : Except Misuse UInt8 :=
  match v.wholeNumber? with
  | some n => if 0 ≤ n ∧ n < 256 then .ok n.toNat.toUInt8 else .error .badValue
  | none => .error .wrongType

/-- The entries that pairs are. -/
def entryOf (v : Value) : Except Misuse (Value × Value) := do
  match ← itemsOf v with
  | [k, w] => return (k, w)
  | _ => throw .badValue

/-- The whole numbers from the first up to the last, which is not among them. -/
def rangeOf (first last step : Int) : Except Misuse Value :=
  let count := if step = 0 then 0 else ((last - first).natAbs / step.natAbs) + 1
  if step = 0 then .error .badValue
  else if Value.mostItems < count then .error .tooLarge
  else .ok (.list ((Value.slicePlaces last step count first).map .integer))

/-- A value of a class. What gives its items one by one is a list of them. -/
def construct (className : String) (arguments : List Value) : Except Misuse Value :=
  match className, arguments with
  | "bool", [] => .ok (.boolean false)
  | "bool", [v] => .ok (.boolean v.isTrue)
  | "int", [] => .ok (.integer 0)
  | "int", [v] => wholeOf v
  | "int", [.text s, .integer base] =>
    if 2 ≤ base ∧ base ≤ 36 then wholeOfText base.toNat s else .error .badValue
  | "float", [] => .ok (.float (.ofInt 0))
  | "float", [v] => floatOf v
  | "str", [] => .ok (.text "")
  | "str", [v] => v.shownText.map .text
  | "bytes", [] => .ok (.bytes [])
  | "bytes", [.bytes data] => .ok (.bytes data)
  | "bytes", [.integer n] =>
    if n < 0 then .error .badValue else (Value.repeated [0] n).map .bytes
  | "bytes", [.list items] => (items.mapM octetOf).map .bytes
  | "list", [] => .ok (.list [])
  | "list", [v] => (itemsOf v).map .list
  | "tuple", [] => .ok (.tuple [])
  | "tuple", [v] => (itemsOf v).map .tuple
  | "set", [] => .ok (.set [])
  | "set", [v] => do setOf (← itemsOf v)
  | "dict", [] => .ok (.dict [])
  | "dict", [.dict entries] => .ok (.dict entries)
  | "dict", [v] => do dictOf (← (← itemsOf v).mapM entryOf)
  | "type", [v] => .ok (classOf v)
  | "range", [.integer n] => rangeOf 0 n 1
  | "range", [.integer m, .integer n] => rangeOf m n 1
  | "range", [.integer m, .integer n, .integer step] => rangeOf m n step
  | "reversed", [v] => (itemsOf v).map fun items => .list items.reverse
  | "enumerate", [v] => do
    return .list ((← itemsOf v).zipIdx.map fun (w, i) => .tuple [.integer i, w])
  | "zip", [v, w] => do
    return .list (List.zipWith (fun a b => .tuple [a, b]) (← itemsOf v) (← itemsOf w))
  | other, arguments =>
    if isErrorName (lastPart other) then
      (errorWords other arguments).map fun words => .foreign words other
    else .error .wrongType

/-! ## Calls -/

/-- What a function gives. -/
def callFunction (name : String) (arguments : List Value) : Except Misuse Value :=
  match name, arguments with
  | "abs", [v] => magnitudeOf v
  | "all", [v] => do return .boolean ((← itemsOf v).all Value.isTrue)
  | "any", [v] => do return .boolean ((← itemsOf v).any Value.isTrue)
  | "ascii", [v] => (literalText v).map fun s => .text (asciiOnly s)
  | "bin", [v] => basedLiteral 2 "0b" v
  | "callable", [v] => .ok (.boolean ((functionName? v).isSome || (className? v).isSome))
  | "chr", [v] =>
    match v.wholeNumber? with
    | some n =>
      if 0 ≤ n ∧ n < 0x110000 then .ok (.text (String.singleton (Text.charOfCode n.toNat)))
      else .error .badValue
    | none => .error .wrongType
  | "divmod", [a, b] => do return .tuple [← BinaryOp.floorDiv.apply a b, ← BinaryOp.mod.apply a b]
  | "format", [v] => (Layout.value [] v).map fun cs => .text (String.ofList cs)
  | "format", [v, .text spec] =>
    (Layout.value spec.toList v).map fun cs => .text (String.ofList cs)
  | "hash", [v] =>
    match v.wholeNumber? with
    | some n => .ok (.integer (hashOf n))
    | none => .error .wrongType
  | "hex", [v] => basedLiteral 16 "0x" v
  | "isinstance", [v, .tuple classes] => .ok (.boolean (classes.any (belongsTo v)))
  | "isinstance", [v, c] =>
    if (className? c).isSome then .ok (.boolean (belongsTo v c)) else .error .wrongType
  | "iter", [v] => (itemsOf v).map .list
  | "len", [v] => (itemsOf v).map fun items => .integer items.length
  | "max", [v] => do extreme .gt (← itemsOf v)
  | "max", v :: w :: vs => extreme .gt (v :: w :: vs)
  | "min", [v] => do extreme .lt (← itemsOf v)
  | "min", v :: w :: vs => extreme .lt (v :: w :: vs)
  | "oct", [v] => basedLiteral 8 "0o" v
  | "ord", [.text s] =>
    match s.toList with
    | [c] => .ok (.integer (Text.codeOf c))
    | _ => .error .wrongType
  | "ord", [.bytes [b]] => .ok (.integer b.toNat)
  | "pow", [a, b] => BinaryOp.pow.apply a b
  | "pow", [a, b, m] => do BinaryOp.mod.apply (← BinaryOp.pow.apply a b) m
  | "print", _ => .ok .null
  | "repr", [v] => (literalText v).map .text
  | "round", [v] | "round", [v, .null] => rounded v
  | "round", [v, n] =>
    match n.wholeNumber? with
    | some places => roundedTo v places
    | none => .error .wrongType
  | "sorted", [v] => do return .list (← ordered (← itemsOf v))
  | "sum", [v] => do sumFrom (.integer 0) (← itemsOf v)
  | "sum", [v, start] => do sumFrom start (← itemsOf v)
  | _, _ => .error .wrongType

/-- What a function or a class gives for arguments. -/
def callPlain (f : Value) (arguments : List Value) : Except Misuse Value :=
  match functionName? f, className? f with
  | some f, _ => callFunction f arguments
  | none, some c => construct c arguments
  | none, none => .error .wrongType

/-- What a function or a class gives for arguments of which some have names. -/
def callNamed (name : String) (f : Value) (arguments : List Value)
    (named : List (String × Value)) : Except Misuse Value :=
  match name, named with
  | "print", _ => .ok .null
  | "dict", named => do
    match ← construct "dict" arguments with
    | .dict entries => dictOf (entries ++ named.map fun (k, v) => (.text k, v))
    | _ => throw .wrongType
  | "sorted", [("reverse", r)] => do
    match ← callPlain f arguments with
    | .list items =>
      if r.isTrue then return .list (← ordered items.reverse).reverse else return .list items
    | _ => throw .wrongType
  | "max", [("default", v)] | "min", [("default", v)] =>
    if arguments.any fun a => (a.items?).any List.isEmpty then .ok v else callPlain f arguments
  | "int", [("base", v)] | "round", [("ndigits", v)] | "sum", [("start", v)] =>
    callPlain f (arguments ++ [v])
  | "str", [("object", v)] => callPlain f (arguments ++ [v])
  | _, _ => .error .wrongType

/-- What a value gives when it is called. -/
def callValue (f : Value) (arguments : List Value) (named : List (String × Value)) :
    Except Misuse Value :=
  if named.isEmpty then
    match className? f, arguments with
    | some "map", [g, v] => do return .list (← (← itemsOf v).mapM fun w => callPlain g [w])
    | some "filter", [.null, v] => do return .list ((← itemsOf v).filter Value.isTrue)
    | some "filter", [g, v] => do
      return .list (← (← itemsOf v).filterM fun w => do return (← callPlain g [w]).isTrue)
    | _, _ => callPlain f arguments
  else
    match (functionName? f).or (className? f) with
    | some n => callNamed n f arguments named
    | none => .error .wrongType

end SolidityWire.Formula
