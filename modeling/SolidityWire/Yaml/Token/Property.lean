/-
Anchors, aliases, tags and directives.
-/
import SolidityWire.Text.Numeral
import SolidityWire.Text.Utf8
import SolidityWire.Yaml.Token
import SolidityWire.Yaml.Token.Quoted

namespace SolidityWire.Yaml

/-! ## Anchors and aliases -/

/-- Whether the name of an anchor may end before what comes next. -/
def endsAnchor (c : Option Char) : Bool :=
  endsWord c || c.any fun c => "?:,]\x7d%@\x60".toList.contains c

/-- The name of an anchor or alias; the place is at its sign. -/
def anchorName (p : Place) : Except Fault (String × Place) :=
  let (name, p) := p.next.span isNameChar
  if name.isEmpty || !endsAnchor p.peek then refuse .badAnchor
  else .ok (String.ofList name, p)

/-! ## Tags -/

/-- A character of a tag that stands for itself. -/
def isUriChar (c : Char) : Bool :=
  isNameChar c || ";/?:@&=+$,.!~*'()[]".toList.contains c

/-- The bytes that percent signs and hexadecimal digits write, put behind `done`, which is kept in
reverse. -/
def escapedBytes (v : Violation) :
    (fuel : Nat) → (done : List UInt8) → Place → Except Fault (List UInt8 × Place)
  | 0, done, p => .ok (done.reverse, p)
  | fuel + 1, done, p =>
    match p.rest with
    | '%' :: cs =>
      match Text.hexNumber? 2 0 cs with
      | some (n, _) => escapedBytes v fuel (n.toUInt8 :: done) (p.forward 3)
      | none => refuse v
    | _ => .ok (done.reverse, p)

/-- The text of a tag with its escapes decoded, put behind `done`, which is kept in reverse. -/
def uriText (v : Violation) :
    (fuel : Nat) → (done : List Char) → Place → Except Fault (List Char × Place)
  | 0, done, p => .ok (done.reverse, p)
  | fuel + 1, done, p =>
    match p.rest with
    | [] => .ok (done.reverse, p)
    | c :: _ =>
      if c = '%' then do
        let (bytes, p) ← escapedBytes v fuel [] p
        match Text.Utf8.decode? bytes with
        | some cs => uriText v fuel (cs.reverse ++ done) p
        | none => refuse v
      else if isUriChar c then uriText v fuel (c :: done) p.next
      else .ok (done.reverse, p)

/-- A part of a tag, which must not be empty. -/
def uri (v : Violation) (p : Place) : Except Fault (String × Place) := do
  let (cs, p) ← uriText v (p.rest.length + 1) [] p
  if cs.isEmpty then refuse v else return (String.ofList cs, p)

/-- The handle of a tag: an exclamation mark alone, or one on each side of a name. -/
def tagHandle (v : Violation) (p : Place) : Except Fault (String × Place) :=
  if p.peek ≠ some '!' then refuse v
  else if p.peekAt 1 = some ' ' then .ok ("!", p.next)
  else
    let (name, p) := p.next.span isNameChar
    if p.peek = some '!' then .ok (String.ofList ('!' :: name ++ ['!']), p.next) else refuse v

/-- The next word up to a space or the end of the line. -/
def wordAhead (p : Place) : List Char :=
  p.rest.takeWhile fun c => !endsItem (some c)

/-- The handle and the rest of a tag, before what follows is looked at; the place is at the sign. -/
def tagParts (p : Place) : Except Fault ((Option String × String) × Place) :=
  let after := p.peekAt 1
  if after = some '<' then do
    let (suffix, p) ← uri .badTag (p.forward 2)
    if p.peek = some '>' then return ((none, suffix), p.next) else refuse .badTag
  else if endsWord after then .ok ((none, "!"), p.next)
  else do
    let (handle, p) ←
      if (wordAhead p.next).contains '!' then tagHandle .badTag p else .ok ("!", p.next)
    let (suffix, p) ← uri .badTag p
    return ((some handle, suffix), p)

/-- A tag; the place is at its sign. -/
def tagToken (p : Place) : Except Fault (Token × Place) := do
  let ((handle, suffix), p) ← tagParts p
  if endsItem p.peek then return (.tag handle suffix, p) else refuse .badTag

/-! ## Directives -/

/-- The number that decimal digits write; there has to be one, and not too many. -/
def versionPart (p : Place) : Except Fault (Nat × Place) :=
  let (digits, p) := p.span Char.isDigit
  if digits.isEmpty then refuse .badDirective
  else if Text.mostDigits < digits.length then .error (.content .badNumber)
  else .ok (digits.foldl (fun n c => n * 10 + (c.toNat - 48)) 0, p)

/-- The content of a version directive. -/
def versionDirective (p : Place) : Except Fault (Directive × Place) := do
  let (major, p) ← versionPart p.skipSpaces
  if p.peek ≠ some '.' then refuse .badDirective
  let (_, p) ← versionPart p.next
  if endsItem p.peek then return (.version major, p) else refuse .badDirective

/-- The content of a tag directive. -/
def handleDirective (p : Place) : Except Fault (Directive × Place) := do
  let (handle, p) ← tagHandle .badDirective p.skipSpaces
  if p.peek ≠ some ' ' then refuse .badDirective
  let (expansion, p) ← uri .badDirective p.skipSpaces
  if endsItem p.peek then return (.handle handle expansion, p) else refuse .badDirective

/-- A directive with its line; the place is at its sign. -/
def directiveToken (p : Place) : Except Fault (Token × Place) := do
  let (name, p) := p.next.span isNameChar
  if name.isEmpty || !endsItem p.peek then refuse .badDirective
  let (d, p) ←
    if name = "YAML".toList then versionDirective p
    else if name = "TAG".toList then handleDirective p
    else .ok (.other, p.skip (!isBreak ·))
  let p ← p.finishLine .badDirective
  return (.directive d, p)

end SolidityWire.Yaml
