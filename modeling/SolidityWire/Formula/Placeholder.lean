/-
Placeholders: a percent sign in a text begins a place for a value, with marks, a width and a
precision before the letter that says how the value is written. Values are taken one by one, or by
their keys from a mapping.
-/
import SolidityWire.Formula.Layout
import SolidityWire.Formula.Name
import SolidityWire.Formula.Operation

namespace SolidityWire.Formula

/-! ## Literals -/

/-- A literal in ASCII: other characters are written by their codes. -/
def asciiOnly (s : String) : String :=
  String.ofList (s.toList.flatMap fun c =>
    if c.toNat < 128 then [c] else Text.escapeCode (Text.codeOf c))

/-- The literal of a value; that of an error has its words in brackets behind its class. -/
def literalText (v : Value) : Except Misuse String :=
  match v.literalFault?, v with
  | some m, _ => .error m
  | none, .foreign words c =>
    if isErrorValue v then .ok (lastPart c ++ "(" ++ Text.quoted words ++ ")") else .ok words
  | none, v => .ok v.literal

/-- A value as a conversion writes it. -/
def converted (c : Conversion) (v : Value) : Except Misuse String :=
  match c with
  | .plain => v.shownText
  | .literal => literalText v
  | .asciiLiteral => (literalText v).map asciiOnly

/-! ## Places for values -/

/-- A place for a value. -/
structure Placeholder where
  marks : List Char := []
  width : Nat := 0
  precision : Option Nat := none
  kind : Char
  deriving Inhabited

namespace Placeholder

/-- Whether the place has a mark. -/
def has (p : Placeholder) (mark : Char) : Bool :=
  p.marks.contains mark

/-- A text filled up to the width; zeros stand between what comes first of a number and its
digits. -/
def filled (p : Placeholder) (isNumber : Bool) (front body : List Char) : List Char :=
  let missing := p.width - front.length - body.length
  if p.has '-' then front ++ body ++ List.replicate missing ' '
  else if isNumber && p.has '0' then front ++ List.replicate missing '0' ++ body
  else List.replicate missing ' ' ++ front ++ body

/-- The sign of a number. -/
def sign (p : Placeholder) (isNegative : Bool) : List Char :=
  if isNegative then ['-'] else if p.has '+' then ['+'] else if p.has ' ' then [' '] else []

/-- A whole number to a base, with at least as many digits as the precision says. -/
def whole (p : Placeholder) (base : Nat) (mark : List Char) (n : Int) : List Char :=
  let digits := Nat.toDigits base n.natAbs
  let digits := List.replicate (p.precision.getD 0 - digits.length) '0' ++ digits
  let raise (cs : List Char) : List Char := if p.kind = 'X' then cs.map Char.toUpper else cs
  p.filled true (p.sign (decide (n < 0)) ++ if p.has '#' then raise mark else []) (raise digits)

/-- A floating-point number, with six places if nothing else is said. -/
def float (p : Placeholder) (x : Binary64) : Except Misuse (List Char) := do
  let layout : Layout :=
    { isAlternate := p.has '#', precision := some (p.precision.getD 6), kind := some p.kind }
  match ← layout.float x with
  | '-' :: body => return p.filled true (p.sign true) body
  | body => return p.filled true (p.sign false) body

/-- A whole number for a value; a fraction is cut off. -/
def truncated (v : Value) : Except Misuse Int :=
  match v, v.wholeNumber? with
  | _, some n => .ok n
  | .float .nan, _ => .error .badValue
  | .float (.infinite _), _ => .error .tooLarge
  | .float x, _ => .ok (((x.scaled?).getD 0).tdiv (2 ^ 1074))
  | _, none => .error .wrongType

/-- A value as a single character. -/
def character (v : Value) : Except Misuse (List Char) :=
  match v, v.wholeNumber? with
  | .text s, _ => if s.length = 1 then .ok s.toList else .error .wrongType
  | _, some n => if 0 ≤ n ∧ n < 0x110000 then .ok [Text.charOfCode n.toNat] else .error .tooLarge
  | _, none => .error .wrongType

/-- What stands in the place of a value. -/
def write (p : Placeholder) (v : Value) : Except Misuse (List Char) :=
  let cut (s : String) : List Char :=
    p.filled false [] (match p.precision with | some n => s.toList.take n | none => s.toList)
  let based (base : Nat) (mark : List Char) : Except Misuse (List Char) :=
    match v.wholeNumber? with
    | some n => .ok (p.whole base mark n)
    | none => .error .wrongType
  match p.kind with
  | 's' => v.shownText.map cut
  | 'r' => (literalText v).map cut
  | 'a' => (literalText v).map fun s => cut (asciiOnly s)
  | 'c' => (character v).map fun cs => p.filled false [] cs
  | 'd' | 'i' | 'u' => do
    let n ← truncated v
    if Text.isTooLong n then throw .badValue
    return p.whole 10 [] n
  | 'x' | 'X' => based 16 ['0', 'x']
  | 'o' => based 8 ['0', 'o']
  | 'e' | 'E' | 'f' | 'F' | 'g' | 'G' =>
    match asFloat? v with
    | some (.infinite b) =>
      if v.wholeNumber?.isSome then .error .tooLarge else p.float (.infinite b)
    | some x => p.float x
    | none => .error .wrongType
  | _ => .error .badValue

end Placeholder

/-! ## Filling -/

/-- Values to be filled in: those that are left to be taken, how many have been, and what has values
under keys. -/
structure Supply where
  left : List Value
  mapping : Option Value := none
  deriving Inhabited

/-- The supply that a value is: a tuple gives its items. A value that can be indexed may be left
over. -/
def Supply.of : Value → Supply
  | .tuple items => ⟨items, none⟩
  | .dict entries => ⟨[.dict entries], some (.dict entries)⟩
  | .list items => ⟨[.list items], some (.list items)⟩
  | .bytes data => ⟨[.bytes data], some (.bytes data)⟩
  | v => ⟨[v], none⟩

/-- The next value, and the supply behind it. -/
def Supply.next (s : Supply) : Except Misuse (Value × Supply) :=
  match s.left with
  | v :: rest => .ok (v, { s with left := rest })
  | [] => .error .wrongType

/-- The key in brackets that comes next, in which brackets may be nested, and what follows. -/
def keyAhead? (depth : Nat) (done : List Char) : List Char → Option (List Char × List Char)
  | [] => none
  | c :: cs =>
    if c = ')' then
      match depth with
      | 0 => some (done.reverse, cs)
      | depth + 1 => keyAhead? depth (c :: done) cs
    else keyAhead? (if c = '(' then depth + 1 else depth) (c :: done) cs

/-- The number that comes next, which a star takes from the values; it has a bound in bits. -/
def countAhead (bits : Nat) (s : Supply) (cs : List Char) :
    Except Misuse (Int × Supply × List Char) :=
  match cs with
  | '*' :: rest => do
    let (v, s) ← s.next
    match v.wholeNumber? with
    | some n => if 2 ^ bits ≤ n.natAbs then throw .tooLarge else return (n, s, rest)
    | none => throw .wrongType
  | cs =>
    let digits := cs.takeWhile Char.isDigit
    .ok (Binary64.digitsValue digits, s, cs.drop digits.length)

/-- What stands for the placeholder behind a percent sign, with the supply and the text behind
it. -/
def fillNext (s : Supply) (cs : List Char) :
    Except Misuse (List Char × Supply × List Char) := do
  let (s, cs) ← match cs, s.mapping with
    | '(' :: rest, some mapping =>
      match keyAhead? 0 [] rest with
      | some (key, rest) => do
        pure ({ s with left := [← mapping.item (.text (String.ofList key))] }, rest)
      | none => throw .badValue
    | '(' :: _, none => throw .wrongType
    | cs, _ => pure (s, cs)
  let marks := cs.takeWhile ['-', '+', ' ', '#', '0'].contains
  let (width, s, cs) ← countAhead 63 s (cs.drop marks.length)
  let marks := if width < 0 then '-' :: marks else marks
  let (precision, s, cs) ← match cs with
    | '.' :: rest => do
      let (n, s, rest) ← countAhead 31 s rest
      pure (some n.toNat, s, rest)
    | cs => pure (none, s, cs)
  let cs := match cs with
    | 'h' :: rest | 'l' :: rest | 'L' :: rest => rest
    | cs => cs
  match cs with
  | [] => throw .badValue
  | kind :: rest => do
    let (v, s) ← s.next
    return (← Placeholder.write ⟨marks, width.natAbs, precision, kind⟩ v, s, rest)

/-- The text with values in the places of its placeholders. -/
def fillAll : (fuel : Nat) → Supply → List Char → Except Misuse (List Char)
  | 0, _, _ => .error .tooDeep
  | _ + 1, s, [] => if s.left.isEmpty || s.mapping.isSome then .ok [] else .error .wrongType
  | fuel + 1, s, '%' :: '%' :: cs => (fillAll fuel s cs).map ('%' :: ·)
  | fuel + 1, s, '%' :: cs => do
    let (front, s, cs) ← fillNext s cs
    return front ++ (← fillAll fuel s cs)
  | fuel + 1, s, c :: cs => (fillAll fuel s cs).map (c :: ·)

/-- The text with the values that are given for its placeholders. -/
def filledText (s : String) (given : Value) : Except Misuse Value :=
  (fillAll (s.length + 1) (.of given) s.toList).map fun cs => .text (String.ofList cs)

end SolidityWire.Formula
