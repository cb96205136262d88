/-
The tokens of a text. Blocks are found by indentation: a deeper column opens one, a shallower column
closes it. A node that a colon follows is a key, which is known only afterwards; until then its
place among the tokens is kept, and the key's token is put there.
-/
import SolidityWire.Yaml.Token.Block
import SolidityWire.Yaml.Token.Plain
import SolidityWire.Yaml.Token.Property

namespace SolidityWire.Yaml

/-! ## State -/

/-- A node that may turn out to be a key: the number of its token, where it is, and whether it has
to be one. -/
structure PossibleKey where
  number : Nat
  isRequired : Bool
  index : Nat
  line : Nat
  column : Nat
  deriving DecidableEq, Inhabited, Repr

/-- A lexer at work. The latest token is the first; there is at most one possible key for each level
of brackets. -/
structure Lexer where
  place : Place
  tokens : List Token := []
  count : Nat := 0
  flowLevel : Nat := 0
  keys : List (Nat × PossibleKey) := []
  indent : Int := -1
  outerIndents : List Int := []
  allowsKey : Bool := true
  deriving Inhabited

/-- The lexer after a step, or all the tokens if there are no more. -/
abbrev Lexed := Except (List Token) Lexer

namespace Lexer

/-- Whether the place is inside brackets. -/
def inFlow (s : Lexer) : Bool :=
  s.flowLevel != 0

/-- Adds a token. -/
def emit (s : Lexer) (t : Token) : Lexer :=
  { s with tokens := t :: s.tokens, count := s.count + 1 }

/-- Adds a token and goes on from the given place. -/
def emitAt (s : Lexer) (t : Token) (p : Place) : Lexer :=
  { s.emit t with place := p }

/-- Puts a token before the one with the given number. -/
def insertAt (s : Lexer) (number : Nat) (t : Token) : Lexer :=
  let later := s.count - number
  { s with tokens := s.tokens.take later ++ t :: s.tokens.drop later, count := s.count + 1 }

/-- The number of tokens that do not wait for a possible key to be decided. -/
def decided (s : Lexer) : Nat :=
  s.keys.foldl (fun n (_, k) => min n k.number) s.count

/-- The tokens up to a fault: those that wait for a decision are not reached any more. -/
def stop {α : Type} (s : Lexer) (f : Fault) : Except (List Token) α :=
  .error (s.tokens.reverse.take s.decided ++ [.fault f])

/-- Stops at a violation. -/
def reject {α : Type} (s : Lexer) (v : Violation) : Except (List Token) α :=
  s.stop (.violation v)

/-- What was read, or the tokens up to the fault. -/
def take {α : Type} (s : Lexer) (r : Except Fault α) : Except (List Token) α :=
  match r with
  | .ok a => .ok a
  | .error f => s.stop f

/-! ## Possible keys -/

/-- Gives up the possible key of this level. -/
def dropKey (s : Lexer) : Lexed :=
  match s.keys.lookup s.flowLevel with
  | none => .ok s
  | some k =>
    if k.isRequired then s.reject .missingColon
    else .ok { s with keys := s.keys.filter (·.1 != s.flowLevel) }

/-- Takes what comes next for a possible key, where one is allowed. In a block, the first node of a
line at the block's own column has to be a key. -/
def noteKey (s : Lexer) : Lexed :=
  if s.allowsKey then do
    let s ← s.dropKey
    let k : PossibleKey := {
      number := s.count
      isRequired := !s.inFlow && s.indent == (s.place.column : Int)
      index := s.place.index
      line := s.place.line
      column := s.place.column }
    return { s with keys := (s.flowLevel, k) :: s.keys }
  else .ok s

/-- Whether a key cannot become one any more: it has to be on the line of its colon, and at most
1024 characters before it. -/
def isStale (s : Lexer) (k : PossibleKey) : Bool :=
  k.line != s.place.line || s.place.index > k.index + 1024

/-- Gives up the keys that cannot become ones any more. -/
def dropStale (s : Lexer) : Lexed :=
  if s.keys.any fun (_, k) => k.isRequired && s.isStale k then s.reject .missingColon
  else .ok { s with keys := s.keys.filter fun (_, k) => !s.isStale k }

/-! ## Indentation -/

/-- Closes the blocks that are indented deeper than the column. -/
def unwind (column : Int) : (outer : List Int) → Lexer → Lexer
  | [], s => s
  | i :: outer, s =>
    if s.indent > column then
      unwind column outer ({ s with indent := i, outerIndents := outer }.emit .blockEnd)
    else s

/-- Closes the blocks that are indented deeper than the column, unless the place is in brackets. -/
def closeBlocks (s : Lexer) (column : Int) : Lexer :=
  if s.inFlow then s else s.unwind column s.outerIndents

/-- Opens a block at the column, if it is deeper than the block around it. -/
def openBlock (s : Lexer) (column : Nat) : Option Lexer :=
  if s.indent < column then
    some { s with indent := column, outerIndents := s.indent :: s.outerIndents }
  else none

/-- Opens a block at the column, if it is deeper, with a token in front of what comes next. -/
def startBlock (s : Lexer) (t : Token) : Lexer :=
  match s.openBlock s.place.column with
  | some s => s.emit t
  | none => s

/-! ## Tokens one by one -/

/-- The end of the text closes all blocks. -/
def lexFinish (s : Lexer) : Lexed := do
  let s ← (s.closeBlocks (-1)).dropKey
  .error ((s.emit .finish).tokens.reverse)

/-- A directive. -/
def lexDirective (s : Lexer) : Lexed := do
  let s ← (s.closeBlocks (-1)).dropKey
  let (t, p) ← s.take (directiveToken s.place)
  return { s.emitAt t p with allowsKey := false }

/-- The marker of a document's start or end. -/
def lexMarker (s : Lexer) (t : Token) : Lexed := do
  let s ← (s.closeBlocks (-1)).dropKey
  return { s.emitAt t (s.place.forward 3) with allowsKey := false }

/-- An opening bracket. -/
def lexOpening (s : Lexer) (t : Token) : Lexed := do
  let s ← s.noteKey
  return { s.emitAt t s.place.next with flowLevel := s.flowLevel + 1, allowsKey := true }

/-- A closing bracket. -/
def lexClosing (s : Lexer) (t : Token) : Lexed :=
  if s.inFlow then do
    let s ← s.dropKey
    return { s.emitAt t s.place.next with flowLevel := s.flowLevel - 1, allowsKey := false }
  else s.reject .unexpectedToken

/-- The comma between the entries of a collection in brackets. -/
def lexFlowEntry (s : Lexer) : Lexed := do
  let s ← s.dropKey
  return { s.emitAt .flowEntry s.place.next with allowsKey := true }

/-- The hyphen before an entry of a sequence. -/
def lexBlockEntry (s : Lexer) : Lexed := do
  if !s.inFlow && !s.allowsKey then s.reject .entryNotAllowed
  let s := if s.inFlow then s else s.startBlock .blockSequence
  let s ← s.dropKey
  return { s.emitAt .blockEntry s.place.next with allowsKey := true }

/-- The question mark before a key. -/
def lexKey (s : Lexer) : Lexed := do
  if !s.inFlow && !s.allowsKey then s.reject .keyNotAllowed
  let s := if s.inFlow then s else s.startBlock .blockMapping
  let s ← s.dropKey
  return { s.emitAt .key s.place.next with allowsKey := !s.inFlow }

/-- The colon before a value. It makes the possible key of the level one. -/
def lexValue (s : Lexer) : Lexed :=
  match s.keys.lookup s.flowLevel with
  | some k =>
    let s := { s with keys := s.keys.filter (·.1 != s.flowLevel) }
    let s := s.insertAt k.number .key
    let s :=
      if s.inFlow then s
      else
        match s.openBlock k.column with
        | some s => s.insertAt k.number .blockMapping
        | none => s
    .ok { s.emitAt .value s.place.next with allowsKey := false }
  | none => do
    if !s.inFlow && !s.allowsKey then s.reject .valueNotAllowed
    let s := if s.inFlow then s else s.startBlock .blockMapping
    return { s.emitAt .value s.place.next with allowsKey := !s.inFlow }

/-- A node or a part of one, which may be a key. -/
def lexNode (s : Lexer) (read : Place → Except Fault (Token × Place)) : Lexed := do
  let s ← s.noteKey
  let (t, p) ← s.take (read s.place)
  return { s.emitAt t p with allowsKey := false }

/-- A block scalar, which is no key. -/
def lexBlockScalar (s : Lexer) (isFolded : Bool) : Lexed := do
  let s ← s.dropKey
  let (text, p) ← s.take (blockScalar isFolded s.indent s.place)
  return { s.emitAt (.scalar false text) p with allowsKey := true }

/-- A plain scalar. -/
def lexPlain (s : Lexer) : Lexed := do
  let s ← s.noteKey
  let (text, broken, p) := plainScalar s.inFlow s.indent s.place
  return { s.emitAt (.scalar true text) p with allowsKey := broken }

/-- An alias or an anchor. -/
def nameToken (make : String → Token) (p : Place) : Except Fault (Token × Place) :=
  (anchorName p).map fun (name, p) => (make name, p)

/-- A quoted scalar. -/
def quotedToken (quote : Char) (p : Place) : Except Fault (Token × Place) :=
  (quotedScalar quote p).map fun (text, p) => (.scalar false text, p)

/-! ## The next token -/

/-- Skips spaces, comments and line breaks. Outside of brackets a new line may begin with a key. -/
def skipToToken : (fuel : Nat) → Lexer → Lexer
  | 0, s => s
  | fuel + 1, s =>
    match s.place.skipSpaces.skipComment.lineBreak with
    | (none, p) => { s with place := p }
    | (some _, p) => skipToToken fuel { s with place := p, allowsKey := s.allowsKey || !s.inFlow }

/-- Skips a byte order mark at the start of the text. -/
def skipMark (s : Lexer) : Lexer :=
  if s.place.index = 0 ∧ s.place.peek = some '\uFEFF' then { s with place := s.place.next } else s

/-- Whether a sign before a space may begin an entry, a key or a value here. -/
def isIndicator (s : Lexer) : Bool :=
  endsWord (s.place.peekAt 1)

/-- Whether the character may begin a plain scalar. -/
def beginsPlain (s : Lexer) (c : Char) : Bool :=
  !(isBlank c || isBreak c || isFlowSign c || "-?:#&*!|>'\"%@\x60".toList.contains c) ||
    (!s.isIndicator && (c = '-' || (!s.inFlow && (c = '?' || c = ':'))))

/-- The token that begins with the given character. -/
def lexChar (s : Lexer) (c : Char) : Lexed :=
  if c = '%' && s.place.column == 0 then s.lexDirective
  else if s.place.column == 0 && s.place.marks '-' then s.lexMarker .documentStart
  else if s.place.column == 0 && s.place.marks '.' then s.lexMarker .documentEnd
  else if c = '[' then s.lexOpening .flowSequence
  else if c = '\x7b' then s.lexOpening .flowMapping
  else if c = ']' then s.lexClosing .flowSequenceEnd
  else if c = '\x7d' then s.lexClosing .flowMappingEnd
  else if c = ',' then s.lexFlowEntry
  else if c = '-' && s.isIndicator then s.lexBlockEntry
  else if c = '?' && (s.inFlow || s.isIndicator) then s.lexKey
  else if c = ':' && (s.inFlow || s.isIndicator) then s.lexValue
  else if c = '*' then s.lexNode (nameToken .alias)
  else if c = '&' then s.lexNode (nameToken .anchor)
  else if c = '!' then s.lexNode tagToken
  else if c = '|' && !s.inFlow then s.lexBlockScalar false
  else if c = '>' && !s.inFlow then s.lexBlockScalar true
  else if c = '\'' then s.lexNode (quotedToken '\'')
  else if c = '"' then s.lexNode (quotedToken '"')
  else if s.beginsPlain c then s.lexPlain
  else s.reject .noToken

/-- Adds the next token. -/
def lexNext (s : Lexer) : Lexed := do
  let s ← (s.skipMark.skipToToken (s.place.rest.length + 1)).dropStale
  let s := s.closeBlocks s.place.column
  match s.place.peek with
  | none => s.lexFinish
  | some c => s.lexChar c

/-- The tokens of what is left of the text. -/
def run : (fuel : Nat) → Lexer → List Token
  | 0, s => s.tokens.reverse
  | fuel + 1, s =>
    match s.lexNext with
    | .error tokens => tokens
    | .ok s => run fuel s

end Lexer

/-- The tokens of a text; the last one is its end or a fault. -/
def Token.ofText (cs : List Char) : List Token :=
  if cs.all isTextChar then Lexer.run (cs.length + 1) { place := { rest := cs } }
  else [.fault (.violation .unprintable)]

end SolidityWire.Yaml
