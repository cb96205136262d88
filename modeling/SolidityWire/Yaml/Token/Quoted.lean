/-
Quoted scalars: lines are folded, a quote is doubled between single quotes, and escapes count
between double ones.
-/
import SolidityWire.Text.Hex
import SolidityWire.Text.Surrogate
import SolidityWire.Yaml.Place

namespace SolidityWire.Yaml

/-! ## Escapes -/

/-- The character of a one-letter escape. -/
def escapedChar? (c : Char) : Option Char :=
  match c with
  | '0' => some '\x00'
  | 'a' => some '\x07'
  | 'b' => some '\x08'
  | 't' | '\t' => some '\t'
  | 'n' => some '\n'
  | 'v' => some '\x0b'
  | 'f' => some '\x0c'
  | 'r' => some '\r'
  | 'e' => some '\x1b'
  | ' ' => some ' '
  | '"' => some '"'
  | '\\' => some '\\'
  | '/' => some '/'
  | 'N' => some '\x85'
  | '_' => some '\xa0'
  | 'L' => some '\u2028'
  | 'P' => some '\u2029'
  | _ => none

/-- The number of digits of an escape by code. -/
def codeWidth? (c : Char) : Option Nat :=
  match c with
  | 'x' => some 2
  | 'u' => some 4
  | 'U' => some 8
  | _ => none

/-- The character of an escape by code; half of a surrogate pair stays alone. -/
def codeChar (code : Nat) : Except Fault Char :=
  if 0x80000000 ≤ code then .error (.content .codeOverflow)
  else if 0x110000 ≤ code then .error (.content .codeTooLarge)
  else .ok (Text.charOfCode code)

/-! ## Line folding -/

/-- The empty lines that come next, as the line feeds that they stand for; a document marker must
not begin a line. -/
def emptyLines : (fuel : Nat) → Place → Except Fault (List Char × Place)
  | 0, p => .ok ([], p)
  | fuel + 1, p =>
    if p.atMarker then refuse .unclosedQuote
    else
      match (p.skip isBlank).lineBreak with
      | (none, p) => .ok ([], p)
      | (some b, p) => do
        let (cs, p) ← emptyLines fuel p
        return (b :: cs, p)

/-- What a line break between two lines of text stands for, with the empty lines after it: a single
line feed becomes a space. -/
def folded (b : Char) (empty : List Char) : List Char :=
  if b ≠ '\n' then b :: empty else if empty.isEmpty then [' '] else empty

/-- Blanks, and the line break behind them if there is one. -/
def quotedSpace (fuel : Nat) (p : Place) : Except Fault (List Char × Place) :=
  let (blanks, p) := p.span isBlank
  match p.lineBreak with
  | (none, p) => .ok (blanks, p)
  | (some b, p) => do
    let (empty, p) ← emptyLines fuel p
    return (folded b empty, p)

/-! ## Scalars -/

/-- What a backslash and the characters behind it stand for; the place is behind the backslash. -/
def escape (fuel : Nat) (p : Place) : Except Fault (List Char × Place) :=
  match p.lineBreak with
  | (some _, p) => emptyLines fuel p
  | (none, p) =>
    match p.rest with
    | [] => refuse .badEscape
    | c :: cs =>
      match escapedChar? c, codeWidth? c with
      | some e, _ => .ok ([e], p.next)
      | none, none => refuse .badEscape
      | none, some width =>
        match Text.hexNumber? width 0 cs with
        | none => refuse .badEscape
        | some (code, _) => return ([← codeChar code], p.forward (1 + width))

/-- The text up to the closing quote, behind `done`, which is kept in reverse. -/
def quotedText (quote : Char) :
    (fuel : Nat) → (done : List Char) → Place → Except Fault (String × Place)
  | 0, _, _ => refuse .unclosedQuote
  | fuel + 1, done, p =>
    match p.rest with
    | [] => refuse .unclosedQuote
    | c :: cs =>
      if c = quote then
        if quote = '\'' ∧ cs.head? = some '\'' then
          quotedText quote fuel ('\'' :: done) (p.forward 2)
        else .ok (String.ofList done.reverse, p.next)
      else if c = '\\' ∧ quote = '"' then do
        let (front, p) ← escape fuel p.next
        quotedText quote fuel (front.reverse ++ done) p
      else if isBlank c || isBreak c then do
        let (front, p) ← quotedSpace fuel p
        quotedText quote fuel (front.reverse ++ done) p
      else quotedText quote fuel (c :: done) p.next

/-- The text of a quoted scalar; the place is at its opening quote. -/
def quotedScalar (quote : Char) (p : Place) : Except Fault (String × Place) :=
  quotedText quote (p.rest.length + 1) [] p.next

end SolidityWire.Yaml
