/-
Formats of values: how wide a value is laid out, where it stands, what fills the rest, and how a
number is written. A format is text; each kind of value takes part of it and refuses the rest.
-/
import SolidityWire.Decimal.Places
import SolidityWire.Value.Shown

namespace SolidityWire.Formula

/-- A format. -/
structure Layout where
  fill : Char := ' '
  align : Option Char := none
  sign : Option Char := none
  hasPositiveZero : Bool := false
  isAlternate : Bool := false
  isZeroFilled : Bool := false
  width : Nat := 0
  separator : Option Char := none
  precision : Option Nat := none
  kind : Option Char := none
  deriving DecidableEq, Inhabited, Repr

namespace Layout

/-! ## Reading -/

/-- Whether the character says where a value stands. -/
def isAlign (c : Char) : Bool :=
  c = '<' || c = '>' || c = '=' || c = '^'

/-- The fill and the place that come first, and what follows. -/
def placeAhead (l : Layout) : List Char → Layout × List Char
  | c :: d :: cs =>
    if isAlign d then ({ l with fill := c, align := some d }, cs)
    else if isAlign c then ({ l with align := some c }, d :: cs)
    else (l, c :: d :: cs)
  | [c] => if isAlign c then ({ l with align := some c }, []) else (l, [c])
  | [] => (l, [])

/-- The marks between the place and the width, and what follows. -/
def marksAhead (l : Layout) (cs : List Char) : Layout × List Char :=
  let (l, cs) := match cs with
    | c :: rest =>
      if c = '+' ∨ c = '-' ∨ c = ' ' then ({ l with sign := some c }, rest) else (l, cs)
    | [] => (l, cs)
  let (l, cs) := match cs with
    | 'z' :: rest => ({ l with hasPositiveZero := true }, rest)
    | cs => (l, cs)
  match cs with
  | '#' :: rest => ({ l with isAlternate := true }, rest)
  | cs => (l, cs)

/-- The number that comes next, if there is one, and what follows. -/
def numberAhead (cs : List Char) : Option Nat × List Char :=
  match cs.takeWhile Char.isDigit with
  | [] => (none, cs)
  | ds => (some (Binary64.digitsValue ds), cs.drop ds.length)

/-- The layout of a format; `none` if it is malformed. A zero before the width fills with zeros,
unless another fill is given. -/
def ofChars? (spec : List Char) : Option Layout := do
  let (l, rest) := placeAhead {} spec
  let isFilled := match spec with
    | _ :: d :: _ => isAlign d
    | _ => false
  let (l, rest) := marksAhead l rest
  let (l, rest) := match rest with
    | '0' :: more =>
      if isFilled then (l, rest) else ({ l with fill := '0', isZeroFilled := true }, more)
    | rest => (l, rest)
  let (width, rest) := numberAhead rest
  let l := { l with width := width.getD 0 }
  let (l, rest) := match rest with
    | ',' :: more => ({ l with separator := some ',' }, more)
    | '_' :: more => ({ l with separator := some '_' }, more)
    | rest => (l, rest)
  let (l, rest) ← match rest with
    | '.' :: more =>
      match numberAhead more with
      | (some n, rest) => some ({ l with precision := some n }, rest)
      | (none, _) => none
    | rest => some (l, rest)
  match rest with
  | [] => some l
  | [c] => some { l with kind := some c }
  | _ => none

/-! ## Writing -/

/-- Fills a text up to the width. -/
def filled (l : Layout) (preset : Char) (front body : List Char) : List Char :=
  let missing := l.width - front.length - body.length
  let fill (n : Nat) : List Char := List.replicate n l.fill
  match l.align.getD preset with
  | '<' => front ++ body ++ fill missing
  | '^' => fill (missing / 2) ++ front ++ body ++ fill (missing - missing / 2)
  | '=' => front ++ fill missing ++ body
  | _ => fill missing ++ front ++ body

/-- The digits, the last one first, with a separator behind each group of `size`. -/
def groupedFrom (separator : Char) (size : Nat) : (room : Nat) → List Char → List Char
  | _, [] => []
  | 0, d :: ds => separator :: d :: groupedFrom separator size (size - 1) ds
  | room + 1, d :: ds => d :: groupedFrom separator size room ds

/-- The digits in groups, the first one first. -/
def grouped (separator : Char) (size : Nat) (ds : List Char) : List Char :=
  (groupedFrom separator size size ds.reverse).reverse

/-- The digits in groups, with zeros in front up to a width. -/
def groupedTo (separator : Char) (size width : Nat) : (fuel : Nat) → List Char → List Char
  | 0, ds => grouped separator size ds
  | fuel + 1, ds =>
    if (grouped separator size ds).length < width then
      groupedTo separator size width fuel ('0' :: ds)
    else grouped separator size ds

/-- The place of a number: zeros stand between its sign and its digits. -/
def numberPlace (l : Layout) : Char :=
  if l.isZeroFilled then '=' else '>'

/-- The sign of a number. -/
def signText (l : Layout) (isNegative : Bool) : List Char :=
  if isNegative then ['-']
  else
    match l.sign with
    | some '-' | none => []
    | some c => [c]

/-- A number of digits with what stands before them and behind. -/
def number (l : Layout) (size : Nat) (front digits behind : List Char) : List Char :=
  let place := l.align.getD l.numberPlace
  let digits := match l.separator with
    | some c =>
      if l.fill = '0' ∧ place = '=' ∧ !digits.isEmpty then
        groupedTo c size (l.width - front.length - behind.length) l.width digits
      else grouped c size digits
    | none => digits
  l.filled l.numberPlace front (digits ++ behind)

/-! ## Whole numbers -/

/-- The kinds in which numbers are written by places or with exponents. -/
def floatKinds : List Char := ['e', 'E', 'f', 'F', 'g', 'G', '%']

/-- The base of a kind of whole numbers, with what marks it and the size of its groups. -/
def baseOf? : Option Char → Option (Nat × List Char × Nat)
  | none | some 'd' | some 'n' => some (10, [], 3)
  | some 'b' => some (2, ['0', 'b'], 4)
  | some 'o' => some (8, ['0', 'o'], 4)
  | some 'x' => some (16, ['0', 'x'], 4)
  | some 'X' => some (16, ['0', 'X'], 4)
  | _ => none

/-- Whether a separator may stand between the digits of a kind. -/
def mayGroup (l : Layout) : Bool :=
  match l.separator, l.kind with
  | none, _ | _, none | _, some 'd' => true
  | some c, some kind =>
    floatKinds.contains kind || (c = '_' && ['b', 'o', 'x', 'X'].contains kind)

/-- A whole number laid out as one. -/
def whole (l : Layout) (n : Int) : Except Misuse (List Char) :=
  if l.precision.isSome || l.hasPositiveZero then .error .badValue
  else if l.kind = some 'c' then
    if l.sign.isSome || l.isAlternate then .error .badValue
    else if n < 0 ∨ 0x110000 ≤ n then .error .tooLarge
    else .ok (l.filled l.numberPlace [] [Text.charOfCode n.toNat])
  else
    match baseOf? l.kind with
    | some (base, mark, size) =>
      if base = 10 ∧ Text.isTooLong n then .error .badValue
      else
        let digits := Nat.toDigits base n.natAbs
        let digits := if l.kind = some 'X' then digits.map Char.toUpper else digits
        let front := l.signText (decide (n < 0)) ++ if l.isAlternate then mark else []
        .ok (l.number size front digits [])
    | none => .error .badValue

/-! ## Floating-point numbers -/

/-- The exponent of a number behind its digits. -/
def exponentText (p : Int) : List Char :=
  (if p < 0 then ['e', '-'] else ['e', '+']) ++ Decimal.paddedDigits 2 p.natAbs

/-- Digits behind a point, which is left out with them. -/
def behindPoint (keep : Bool) (ds : List Char) : List Char :=
  if ds.isEmpty && !keep then [] else '.' :: ds

/-- A number in so many significant digits, by places if it is neither small nor large; zeros at the
end are dropped unless they are to be kept. -/
def general (l : Layout) (asText : Bool) (precision m : Nat) (e : Int) : List Char × List Char :=
  let precision := max precision 1
  let (first, more, p) := Decimal.exponentDigits (precision - 1) m e
  let trim (ds : List Char) : List Char := if l.isAlternate then ds else dropTrailingZeros ds
  let bound : Int := if asText then (precision : Int) - 1 else precision
  if -4 ≤ p ∧ p < bound then
    let (front, behind) := Decimal.fixedDigits (precision - 1 - p).toNat m e
    let behind := trim behind
    (front, if asText && behind.isEmpty then ['.', '0'] else behindPoint l.isAlternate behind)
  else (first, behindPoint l.isAlternate (trim more) ++ exponentText p)

/-- The digits of a finite number before the point or the exponent, and the rest of it. -/
def magnitude (l : Layout) (m : Nat) (e : Int) : List Char × List Char :=
  let precision := l.precision.getD 6
  match l.kind.map Char.toLower with
  | none =>
    match l.precision with
    | some precision => l.general true precision m e
    | none =>
      let text := ((Binary64.finite false m e).toText .message).toList
      let behind := text.dropWhile Char.isDigit
      let point := if l.isAlternate && behind.head? == some 'e' then ['.'] else []
      (text.takeWhile Char.isDigit, point ++ behind)
  | some 'e' =>
    let (first, more, p) := Decimal.exponentDigits precision m e
    (first, behindPoint l.isAlternate more ++ exponentText p)
  | some 'g' | some 'n' => l.general false precision m e
  | _ =>
    let (front, behind) := Decimal.fixedDigits precision m e
    (front, behindPoint l.isAlternate behind)

/-- A floating-point number laid out. -/
def float (l : Layout) (x : Binary64) : Except Misuse (List Char) :=
  if l.kind.any fun c => !(floatKinds.contains c || c = 'n') then .error .badValue
  else
    let percent := if l.kind = some '%' then ['%'] else []
    let x := if l.kind = some '%' then x.scale 100 0 else x
    let raise (cs : List Char) : List Char :=
      if l.kind.any Char.isUpper then cs.map Char.toUpper else cs
    match x with
    | .nan => .ok (l.number 3 (l.signText false) [] (raise ['n', 'a', 'n'] ++ percent))
    | .infinite isNegative =>
      .ok (l.number 3 (l.signText isNegative) [] (raise ['i', 'n', 'f'] ++ percent))
    | .finite isNegative m e =>
      let (front, behind) := l.magnitude m e
      let isZero := (front ++ behind.takeWhile (· ≠ 'e')).all fun c => c = '0' ∨ c = '.'
      let isNegative := isNegative && !(l.hasPositiveZero && isZero)
      .ok (l.number 3 (l.signText isNegative) front (raise behind ++ percent))

/-! ## Values -/

/-- A text laid out. -/
def text (l : Layout) (s : String) : Except Misuse (List Char) :=
  if l.sign.isSome || l.hasPositiveZero || l.isAlternate || l.separator.isSome ||
      l.align = some '=' || l.kind.any (· ≠ 's') then .error .badValue
  else
    let cs := match l.precision with
      | some n => s.toList.take n
      | none => s.toList
    .ok (l.filled '<' [] cs)

/-- A value laid out. Only texts and numbers take a format that says something. -/
def value (spec : List Char) (v : Value) : Except Misuse (List Char) :=
  if v.lacks "__format__" then .error .wrongType
  else if spec.isEmpty then v.shownText.map String.toList
  else
    let read (lay : Layout → Except Misuse (List Char)) : Except Misuse (List Char) :=
      match ofChars? spec with
      | some l => if l.mayGroup then lay l else .error .badValue
      | none => .error .badValue
    match v with
    | .text s => read (text · s)
    | .float x => read (float · x)
    | v =>
      match v.wholeNumber? with
      | some n =>
        read fun l =>
          if l.kind.any floatKinds.contains then
            match Binary64.ofInt n with
            | .infinite _ => .error .tooLarge
            | x => float l x
          else whole l n
      | none => .error .wrongType

end Layout

end SolidityWire.Formula
