/-
Texts with fields in braces: a field names a value, by its place or by a name, then parts of it, a
conversion and a format. Fields without a name take one value after another. Braces that are doubled
stand for themselves.
-/
import SolidityWire.Formula.Placeholder

namespace SolidityWire.Formula

/-! ## Fields -/

/-- A part of a value: a field, or the item at an index or under a key. -/
inductive FieldStep where
  | field (name : String)
  | item (index : Value)
  deriving Inhabited

/-- What stands between braces: the name of a value, the steps to its part, the letter of a
conversion, and a format. -/
structure BracedField where
  name : List Char
  steps : List Char
  conversion : Option Char := none
  spec : List Char := []
  deriving DecidableEq, Inhabited, Repr

/-- The name of a field and what ends it, with what follows; square brackets hold any character. -/
def nameAhead? (done : List Char) (inBrackets : Bool) :
    List Char → Option (List Char × Char × List Char)
  | [] => none
  | c :: cs =>
    if inBrackets then nameAhead? (c :: done) (c ≠ ']') cs
    else if c = '\x7b' then none
    else if c = '[' then nameAhead? (c :: done) true cs
    else if c = '\x7d' ∨ c = ':' ∨ c = '!' then some (done.reverse, c, cs)
    else nameAhead? (c :: done) false cs

/-- The format of a field up to the brace that closes it, and what follows. -/
def formatAhead? (depth : Nat) (done : List Char) : List Char → Option (List Char × List Char)
  | [] => none
  | c :: cs =>
    if c = '\x7b' then formatAhead? (depth + 1) (c :: done) cs
    else if c = '\x7d' then
      match depth with
      | 0 => some (done.reverse, cs)
      | depth + 1 => formatAhead? depth (c :: done) cs
    else formatAhead? depth (c :: done) cs

/-- The field behind an open brace, and what follows. -/
def fieldAhead? (cs : List Char) : Option (BracedField × List Char) := do
  let (front, sign, rest) ← nameAhead? [] false cs
  let isFirst (c : Char) : Bool := c ≠ '.' && c ≠ '['
  let f : BracedField := ⟨front.takeWhile isFirst, front.dropWhile isFirst, none, []⟩
  match sign, rest with
  | '!', c :: '\x7d' :: rest => return ({ f with conversion := some c }, rest)
  | '!', c :: ':' :: rest => do
    let (spec, rest) ← formatAhead? 0 [] rest
    return ({ f with conversion := some c, spec }, rest)
  | ':', rest => do
    let (spec, rest) ← formatAhead? 0 [] rest
    return ({ f with spec }, rest)
  | '\x7d', rest => return (f, rest)
  | _, _ => none

/-- The steps that are written behind the name of a field. -/
def steps? : (fuel : Nat) → List Char → Option (List FieldStep)
  | _, [] => some []
  | fuel + 1, '.' :: cs =>
    let name := cs.takeWhile fun c => c ≠ '.' ∧ c ≠ '['
    if name.isEmpty then none
    else (steps? fuel (cs.drop name.length)).map (.field (String.ofList name) :: ·)
  | fuel + 1, '[' :: cs =>
    let key := cs.takeWhile (· ≠ ']')
    match cs.drop key.length with
    | _ :: rest =>
      let index := if key.all Char.isDigit then Value.integer (Binary64.digitsValue key)
        else .text (String.ofList key)
      if key.isEmpty then none else (steps? fuel rest).map (.item index :: ·)
    | [] => none
  | _, _ => none

/-! ## Filling -/

/-- The values for fields, how many have been taken, and whether places are given by number. -/
structure FieldSupply where
  plain : List Value
  named : List (String × Value)
  taken : Nat := 0
  isNumbered : Bool := false
  deriving Inhabited

/-- The value that a field names, and the supply behind it. Places are either all given by number or
all taken one after the other. -/
def FieldSupply.find (s : FieldSupply) (name : List Char) :
    Except Misuse (Value × FieldSupply) := do
  let at? (i : Nat) : Except Misuse Value :=
    match s.plain[i]? with
    | some v => .ok v
    | none => .error .noItem
  if name.isEmpty then
    if s.isNumbered then throw .badValue
    return (← at? s.taken, { s with taken := s.taken + 1 })
  else if name.all Char.isDigit then
    if 0 < s.taken then throw .badValue
    return (← at? (Binary64.digitsValue name), { s with isNumbered := true })
  else
    match s.named.lookup (String.ofList name) with
    | some v => return (v, s)
    | none => throw .noKey

/-- The letters of conversions. -/
def conversionOf (c : Option Char) : Except Misuse (Option Conversion) :=
  match c with
  | none => .ok none
  | some 's' => .ok (some .plain)
  | some 'r' => .ok (some .literal)
  | some 'a' => .ok (some .asciiLiteral)
  | some _ => .error .badValue

/-- A value written with a conversion and a format. -/
def shown (conversion : Option Conversion) (spec : List Char) (v : Value) :
    Except Misuse (List Char) := do
  match conversion with
  | some c => Layout.value spec (.text (← converted c v))
  | none => Layout.value spec v

/-- The part of a value that steps lead to. -/
def follow (field : Value → String → Except Misuse Value) (v : Value) :
    List FieldStep → Except Misuse Value
  | [] => .ok v
  | .field n :: rest => do follow field (← field v n) rest
  | .item index :: rest => do follow field (← v.item index) rest

/-- The text with the values of its fields; fields may stand in the formats of others, but not in
the formats of those. -/
def fillFields (field : Value → String → Except Misuse Value) :
    (fuel depth : Nat) → FieldSupply → List Char → Except Misuse (List Char × FieldSupply)
  | 0, _, _, _ => .error .tooDeep
  | _ + 1, _, s, [] => .ok ([], s)
  | fuel + 1, depth, s, c :: cs =>
    match c, cs with
    | '\x7b', '\x7b' :: cs => do
      let (rest, s) ← fillFields field fuel depth s cs
      return ('\x7b' :: rest, s)
    | '\x7d', '\x7d' :: cs => do
      let (rest, s) ← fillFields field fuel depth s cs
      return ('\x7d' :: rest, s)
    | '\x7d', _ => throw .badValue
    | '\x7b', cs =>
      match fieldAhead? cs with
      | none => throw .badValue
      | some (f, cs) => do
        let (v, s) ← s.find f.name
        let steps ← match steps? (f.steps.length + 1) f.steps with
          | some steps => pure steps
          | none => throw .badValue
        let v ← follow field v steps
        let conversion ← conversionOf f.conversion
        let (spec, s) ←
          if f.spec.contains '\x7b' then
            if depth = 0 then throw .badValue else fillFields field fuel (depth - 1) s f.spec
          else pure (f.spec, s)
        let front ← shown conversion spec v
        let (rest, s) ← fillFields field fuel depth s cs
        return (front ++ rest, s)
    | c, cs => do
      let (rest, s) ← fillFields field fuel depth s cs
      return (c :: rest, s)

/-- The text with the values that are given for its fields. -/
def filledFields (field : Value → String → Except Misuse Value) (s : String)
    (plain : List Value) (named : List (String × Value)) : Except Misuse Value :=
  (fillFields field (s.length + 2) 1 ⟨plain, named, 0, false⟩ s.toList).map fun (cs, _) =>
    .text (String.ofList cs)

end SolidityWire.Formula
