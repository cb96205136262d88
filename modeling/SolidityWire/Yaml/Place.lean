/-
Places in a text: what is to come, and how many characters, lines and columns lie behind. Five
characters break lines; a carriage return and the line feed after it are one break.
-/
import SolidityWire.Yaml.Fault

namespace SolidityWire.Yaml

/-! ## Characters -/

/-- A character that breaks a line. -/
def isBreak (c : Char) : Bool :=
  c = '\n' || c = '\r' || c = '\x85' || c = '\u2028' || c = '\u2029'

/-- A space or a tab. -/
def isBlank (c : Char) : Bool :=
  c = ' ' || c = '\t'

/-- A character that a text may have. -/
def isTextChar (c : Char) : Bool :=
  let n := c.toNat
  n == 9 || n == 10 || n == 13 || (32 ≤ n && n ≤ 126) || n == 133 ||
    (160 ≤ n && n ≠ 0xFFFE && n ≠ 0xFFFF)

/-- A character of the names of anchors, tag handles and directives. -/
def isNameChar (c : Char) : Bool :=
  c.isAlphanum || c = '-' || c = '_'

/-- Whether a line ends before what comes next. -/
def endsLine : Option Char → Bool
  | none => true
  | some c => isBreak c

/-- Whether a space or the end of a line comes next. -/
def endsItem : Option Char → Bool
  | none => true
  | some c => c = ' ' || isBreak c

/-- Whether a space, a tab or the end of a line comes next. -/
def endsWord : Option Char → Bool
  | none => true
  | some c => isBlank c || isBreak c

/-! ## Places -/

/-- A place in a text. -/
structure Place where
  rest : List Char
  index : Nat := 0
  line : Nat := 0
  column : Nat := 0
  deriving DecidableEq, Inhabited, Repr

namespace Place

/-- The next character. -/
def peek (p : Place) : Option Char :=
  p.rest.head?

/-- The character after `n` others. -/
def peekAt (p : Place) (n : Nat) : Option Char :=
  (p.rest.drop n).head?

/-- The place behind the next character. A byte order mark takes no column. -/
def next (p : Place) : Place :=
  match p.rest with
  | [] => p
  | c :: rest =>
    if isBreak c && !(c = '\r' && rest.head? = some '\n') then ⟨rest, p.index + 1, p.line + 1, 0⟩
    else if c = '\uFEFF' then ⟨rest, p.index + 1, p.line, p.column⟩
    else ⟨rest, p.index + 1, p.line, p.column + 1⟩

/-- The place behind the next `n` characters. -/
def forward : (n : Nat) → Place → Place
  | 0, p => p
  | n + 1, p => forward n p.next

/-- The next characters of a kind, and the place behind them. -/
def span (p : Place) (kind : Char → Bool) : List Char × Place :=
  let cs := p.rest.takeWhile kind
  (cs, p.forward cs.length)

/-- The place behind the next characters of a kind. -/
def skip (p : Place) (kind : Char → Bool) : Place :=
  (p.span kind).2

/-- The place behind the spaces that come next. -/
def skipSpaces (p : Place) : Place :=
  p.skip (· = ' ')

/-- The place behind the comment that comes next, if one does. -/
def skipComment (p : Place) : Place :=
  if p.peek = some '#' then p.skip (!isBreak ·) else p

/-- What a line break at this place stands for, and the place behind it. Most breaks stand for a
line feed; at other places there is none. -/
def lineBreak (p : Place) : Option Char × Place :=
  match p.rest with
  | '\r' :: '\n' :: _ => (some '\n', p.forward 2)
  | c :: _ =>
    if c = '\u2028' || c = '\u2029' then (some c, p.next)
    else if isBreak c then (some '\n', p.next)
    else (none, p)
  | [] => (none, p)

/-- Whether a document marker made of the given sign is here. -/
def marks (p : Place) (sign : Char) : Bool :=
  p.rest.take 3 = [sign, sign, sign] && endsWord (p.peekAt 3)

/-- Whether the start or the end of a document is marked here. -/
def atMarker (p : Place) : Bool :=
  p.marks '-' || p.marks '.'

/-- The place behind spaces, a comment if any, and the end of the line. -/
def finishLine (p : Place) (v : Violation) : Except Fault Place :=
  let p := p.skipSpaces.skipComment
  if endsLine p.peek then .ok p.lineBreak.2 else refuse v

end Place

end SolidityWire.Yaml
