/-
Block scalars: the lines that are indented far enough, kept as they are or folded. The header says
what becomes of the line feeds at the end, and how far the lines are indented if the first one is
not to decide that.
-/
import SolidityWire.Yaml.Place

namespace SolidityWire.Yaml

/-! ## Headers -/

/-- What becomes of the line feeds at the end of a block scalar. -/
inductive Chomping where
  | strip | clip | keep
  deriving DecidableEq, Inhabited, Repr

/-- What a block scalar's header says. -/
structure BlockHeader where
  chomping : Chomping := .clip
  indent : Option Nat := none
  deriving DecidableEq, Inhabited, Repr

/-- The sign for the line feeds at the end, if it comes next. -/
def chompingSign (p : Place) : Option Chomping × Place :=
  match p.peek with
  | some '+' => (some .keep, p.next)
  | some '-' => (some .strip, p.next)
  | _ => (none, p)

/-- The digit for the indentation, if it comes next; zero is none. -/
def indentDigit (p : Place) : Except Fault (Option Nat × Place) :=
  match p.peek with
  | some c =>
    if c = '0' then refuse .badHeader
    else if c.isDigit then .ok (some (c.toNat - 48), p.next)
    else .ok (none, p)
  | none => .ok (none, p)

/-- The header of a block scalar, up to the end of its line. -/
def blockHeader (p : Place) : Except Fault (BlockHeader × Place) := do
  let (sign, p) := chompingSign p
  let (indent, p) ← indentDigit p
  let (sign, p) := match sign with
    | some s => (some s, p)
    | none => chompingSign p
  if !endsItem p.peek then refuse .badHeader
  let p ← p.finishLine .badHeader
  return (⟨sign.getD .clip, indent⟩, p)

/-! ## Lines -/

/-- The empty lines that come next and how far the deepest line of spaces reaches, with the place at
the first other character. -/
def leadingLines : (fuel deepest : Nat) → Place → List Char × Nat × Place
  | 0, deepest, p => ([], deepest, p)
  | fuel + 1, deepest, p =>
    let p := p.skipSpaces
    let deepest := max deepest p.column
    match p.lineBreak with
    | (none, p) => ([], deepest, p)
    | (some b, p) =>
      let (breaks, deepest, p) := leadingLines fuel deepest p
      (b :: breaks, deepest, p)

/-- The place behind at most as many spaces as lead to the given column. -/
def skipToColumn (column : Nat) : (fuel : Nat) → Place → Place
  | 0, p => p
  | fuel + 1, p =>
    if p.column < column ∧ p.peek = some ' ' then skipToColumn column fuel p.next else p

/-- The empty lines that come next, with the place at the indentation of the line after them. -/
def innerLines (indent : Nat) : (fuel : Nat) → Place → List Char × Place
  | 0, p => ([], p)
  | fuel + 1, p =>
    match (skipToColumn indent indent p).lineBreak with
    | (none, p) => ([], p)
    | (some b, p) =>
      let (breaks, p) := innerLines indent fuel p
      (b :: breaks, p)

/-- Whether the line that comes next is the scalar's. -/
def atBlockLine (indent : Nat) (p : Place) : Bool :=
  p.column == indent && p.peek.isSome

/-- What stands between two lines of a folded scalar: lines that begin with a blank keep their line
feeds. -/
def betweenLines (isFolded first second : Bool) (b : Option Char) (breaks : List Char) :
    List Char :=
  if isFolded && b = some '\n' && first && second then
    if breaks.isEmpty then [' '] else []
  else b.toList

/-- Whether the next character is no blank. -/
def startsWord (p : Place) : Bool :=
  match p.peek with
  | some c => !isBlank c
  | none => true

/-- The lines from this place on: their text without the last line's break, that break, and the
empty lines behind it. -/
def blockLines (isFolded : Bool) (indent : Nat) :
    (fuel : Nat) → Place → List Char × Option Char × List Char × Place
  | 0, p => ([], none, [], p)
  | fuel + 1, p =>
    let (line, q) := p.span (!isBreak ·)
    let (b, q) := q.lineBreak
    let (breaks, q) := innerLines indent (q.rest.length + 1) q
    if atBlockLine indent q then
      let (text, last, tail, r) := blockLines isFolded indent fuel q
      (line ++ betweenLines isFolded (startsWord p) (startsWord q) b breaks ++ breaks ++ text, last,
        tail, r)
    else (line, b, breaks, q)

/-! ## Scalars -/

/-- The text of a block scalar and the place behind it; the place is at its sign, and `parent` is
the column of the block around it. -/
def blockScalar (isFolded : Bool) (parent : Int) (p : Place) : Except Fault (String × Place) := do
  let (header, p) ← blockHeader p.next
  let least := max 1 (parent + 1).toNat
  let fuel := p.rest.length + 1
  let (indent, breaks, p) := match header.indent with
    | none =>
      let (breaks, deepest, p) := leadingLines fuel 0 p
      (max least deepest, breaks, p)
    | some n =>
      let indent := least + n - 1
      let (breaks, p) := innerLines indent fuel p
      (indent, breaks, p)
  let (text, last, tail, p) :=
    if atBlockLine indent p then
      let (text, last, tail, p) := blockLines isFolded indent fuel p
      (breaks ++ text, last, tail, p)
    else ([], none, breaks, p)
  let ending := match header.chomping with
    | .strip => []
    | .clip => last.toList
    | .keep => last.toList ++ tail
  return (String.ofList (text ++ ending), p)

end SolidityWire.Yaml
