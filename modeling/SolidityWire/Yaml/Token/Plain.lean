/-
Plain scalars: words without quotes, joined over spaces and line breaks as long as the lines are
indented far enough. Inside brackets the signs of collections end a word.
-/
import SolidityWire.Yaml.Token.Quoted

namespace SolidityWire.Yaml

/-- A bracket, a brace or a comma. -/
def isFlowSign (c : Char) : Bool :=
  c = ',' || c = '[' || c = ']' || c = '\x7b' || c = '\x7d'

/-- Whether the character, with the given one behind it, cannot be part of a plain word. -/
def endsPlain (inFlow : Bool) (c : Char) (after : Option Char) : Bool :=
  isBlank c || isBreak c || (c = ':' && (endsWord after || (inFlow && after.any isFlowSign))) ||
    (inFlow && (c = '?' || isFlowSign c))

/-- The plain word that comes next. -/
def plainWord (inFlow : Bool) : List Char → List Char
  | [] => []
  | c :: cs => if endsPlain inFlow c cs.head? then [] else c :: plainWord inFlow cs

/-- The empty lines that come next, with the place at the first character of the line after them;
`none` if a document marker comes before. -/
def plainLines : (fuel : Nat) → Place → Option (List Char) × Place
  | 0, p => (none, p)
  | fuel + 1, p =>
    if p.atMarker then (none, p)
    else
      match p.skipSpaces.lineBreak with
      | (none, p) => (some [], p)
      | (some b, p) =>
        let (breaks, p) := plainLines fuel p
        (breaks.map (b :: ·), p)

/-- What stands between two words, nothing if the scalar ends here; and whether a line ends. -/
def plainSpace (p : Place) : List Char × Bool × Place :=
  let (spaces, p) := p.span (· = ' ')
  match p.lineBreak with
  | (none, p) => (spaces, false, p)
  | (some b, p) =>
    match plainLines (p.rest.length + 1) p with
    | (some empty, p) => (folded b empty, true, p)
    | (none, p) => ([], true, p)

/-- The words from this place on, each behind what stands between it and the words before; `done` is
kept in reverse, and `indent` is the least column of a line in a block. The answer says whether a
line ends behind the last word. -/
def plainText (inFlow : Bool) (indent : Int) :
    (fuel : Nat) → (done between : List Char) → (broken : Bool) → Place → String × Bool × Place
  | 0, done, _, broken, p => (String.ofList done.reverse, broken, p)
  | fuel + 1, done, between, broken, p =>
    let word := plainWord inFlow p.rest
    if word.isEmpty then (String.ofList done.reverse, broken, p)
    else
      let done := word.reverse ++ between.reverse ++ done
      let (between, broken, p) := plainSpace (p.forward word.length)
      if between.isEmpty || p.peek = some '#' || (!inFlow && (p.column : Int) < indent) then
        (String.ofList done.reverse, broken, p)
      else plainText inFlow indent fuel done between broken p

/-- The text of a plain scalar, whether a line ends behind it, and the place of what comes next;
`parent` is the column of the block around it. -/
def plainScalar (inFlow : Bool) (parent : Int) (p : Place) : String × Bool × Place :=
  plainText inFlow (parent + 1) (p.rest.length + 1) [] [] false p

end SolidityWire.Yaml
