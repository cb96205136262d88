/-
Escapes in quoted texts: a backslash begins a character by its code, by its name or by a letter. A
backslash before anything else stands for itself.
-/
import SolidityWire.Text.CharName
import SolidityWire.Text.Hex
import SolidityWire.Text.Surrogate

namespace SolidityWire.Formula

/-- The number that at most `count` octal digits write, and what follows them. -/
def octalNumber : (count value : Nat) → List Char → Nat × List Char
  | count + 1, value, c :: cs =>
    if '0' ≤ c ∧ c ≤ '7' then octalNumber count (value * 8 + (c.toNat - 48)) cs
    else (value, c :: cs)
  | _, value, cs => (value, cs)

/-- The characters that have a letter as their escape. -/
def letterEscape? : Char → Option Char
  | '\\' => some '\\'
  | '\'' => some '\''
  | '"' => some '"'
  | 'a' => some '\x07'
  | 'b' => some '\x08'
  | 'f' => some '\x0c'
  | 'n' => some '\n'
  | 'r' => some '\r'
  | 't' => some '\t'
  | 'v' => some '\x0b'
  | _ => none

/-- The character of a code, if there may be one. -/
def codeEscape? (code : Nat) : Option (List Char) :=
  if code < 0x110000 then some [Text.charOfCode code] else none

/-- The character whose name comes next in braces, and what follows. -/
def namedEscape? (cs : List Char) : Option (List Char × List Char) :=
  match cs with
  | '\x7b' :: rest =>
    match rest.dropWhile (· ≠ '\x7d') with
    | _ :: behind =>
      (Text.charNamed? (String.ofList (rest.takeWhile (· ≠ '\x7d')))).map fun c => ([c], behind)
    | [] => none
  | _ => none

/-- What an escape stands for, and what follows it; codes of more than two digits and names are for
texts, not for bytes. -/
def escape? (isBytes : Bool) : List Char → Option (List Char × List Char)
  | [] => some (['\\'], [])
  | '\n' :: cs => some ([], cs)
  | c :: cs =>
    let coded (width : Nat) : Option (List Char × List Char) :=
      (Text.hexNumber? width 0 cs).bind fun (n, rest) => (codeEscape? n).map (·, rest)
    match letterEscape? c with
    | some d => some ([d], cs)
    | none =>
      if '0' ≤ c ∧ c ≤ '7' then
        let (n, rest) := octalNumber 3 0 (c :: cs)
        some ([Char.ofNat (if isBytes then n % 256 else n)], rest)
      else if c = 'x' then coded 2
      else if isBytes then some (['\\'], c :: cs)
      else if c = 'u' then coded 4
      else if c = 'U' then coded 8
      else if c = 'N' then namedEscape? cs
      else some (['\\'], c :: cs)

/-- The characters that a quoted text stands for; `none` if an escape is malformed. -/
def unescape? (isBytes : Bool) : (fuel : Nat) → List Char → Option (List Char)
  | 0, _ => none
  | _ + 1, [] => some []
  | fuel + 1, '\\' :: cs => do
    let (front, rest) ← escape? isBytes cs
    return front ++ (← unescape? isBytes fuel rest)
  | fuel + 1, c :: cs => (unescape? isBytes fuel cs).map (c :: ·)

/-- The characters that the body of a quoted text stands for, unless backslashes are themselves. -/
def bodyText? (isBytes isRaw : Bool) (body : List Char) : Option (List Char) :=
  if isRaw then some body else unescape? isBytes (body.length + 1) body

end SolidityWire.Formula
