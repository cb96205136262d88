/-
Markup of messages: tags in square brackets style the text between them and are not shown, unless a
backslash stands before them. A closing tag needs an open one. Names between colons show pictures.
-/
import SolidityWire.CommandLine.Style
import SolidityWire.Formula.Literal
import SolidityWire.Text.Emoji
import SolidityWire.Text.Width

namespace SolidityWire.CommandLine

/-! ## Tags -/

/-- A character that may begin a tag. -/
def beginsTag (c : Char) : Bool :=
  ('a' ≤ c && c ≤ 'z') || c = '#' || c = '/' || c = '@'

/-- The tag that comes next, between its brackets, and the text behind it. -/
def tagAhead? : List Char → Option (List Char × List Char)
  | '[' :: c :: rest =>
    if beginsTag c then
      let more := rest.takeWhile fun c => c ≠ ']' ∧ c ≠ '['
      match rest.dropWhile fun c => c ≠ ']' ∧ c ≠ '[' with
      | ']' :: behind => some (c :: more, behind)
      | _ => none
    else none
  | _ => none

/-- The number of backslashes that come next, and the tag behind them with the text that follows. -/
def markAhead? (cs : List Char) : Option (Nat × List Char × List Char) :=
  let slashes := cs.takeWhile (· = '\\')
  (tagAhead? (cs.drop slashes.length)).map fun (tag, behind) => (slashes.length, tag, behind)

/-! ## Escaping -/

/-- The text with its tags escaped: the backslashes before a tag are doubled, and one is added. -/
def escapeTags : (fuel : Nat) → List Char → List Char
  | 0, cs => cs
  | _ + 1, [] => []
  | fuel + 1, c :: cs =>
    match markAhead? (c :: cs) with
    | some (slashes, tag, behind) =>
      List.replicate (2 * slashes + 1) '\\' ++ '[' :: tag ++ ']' :: escapeTags fuel behind
    | none => c :: escapeTags fuel cs

/-- The text as markup that shows it: a backslash at the end is doubled if it is the only one. -/
def escapeMarkup (text : String) : String :=
  let cs := escapeTags (text.length + 1) text.toList
  match cs.reverse with
  | '\\' :: '\\' :: _ => String.ofList cs
  | '\\' :: _ => String.ofList (cs ++ ['\\'])
  | _ => String.ofList cs

/-! ## Pieces -/

/-- A tag: a name, and parameters behind an equality sign. -/
structure Tag where
  name : String
  parameters : Option String := none
  deriving DecidableEq, Inhabited, Repr

/-- The tag that stands between brackets. -/
def Tag.ofChars (cs : List Char) : Tag where
  name := String.ofList (cs.takeWhile (· ≠ '='))
  parameters :=
    match cs.dropWhile (· ≠ '=') with
    | _ :: parameters => some (String.ofList parameters)
    | [] => none

/-- The style that a tag asks for. -/
def Tag.style (t : Tag) : String :=
  match t.parameters with
  | some parameters => t.name ++ " " ++ parameters
  | none => t.name

/-- A piece of markup. -/
inductive Piece where
  | text (cs : List Char)
  | tag (t : Tag)
  deriving DecidableEq, Inhabited, Repr

/-- The pieces of markup, after text that is given in reverse: two backslashes before a tag show
one, and one left over shows the tag. -/
def markupPieces : (fuel : Nat) → (before : List Char) → List Char → List Piece
  | 0, before, cs => [.text (before.reverse ++ cs)]
  | _ + 1, before, [] => [.text before.reverse]
  | fuel + 1, before, c :: cs =>
    match markAhead? (c :: cs) with
    | some (slashes, tag, behind) =>
      let shown := [.text before.reverse, .text (List.replicate (slashes / 2) '\\')]
      let last :=
        if slashes % 2 = 1 then Piece.text ('[' :: tag ++ [']']) else .tag (.ofChars tag)
      shown ++ last :: markupPieces fuel [] behind
    | none => markupPieces fuel (c :: before) cs

/-- The text without backslashes before brackets. -/
def unescape : List Char → List Char
  | '\\' :: '[' :: cs => '[' :: unescape cs
  | c :: cs => c :: unescape cs
  | [] => []

/-- The characters that a piece of text shows. -/
def shownText (cs : List Char) : List Char :=
  Text.withEmojis (cs.length + 1) (unescape cs)

/-! ## Styles -/

/-- Why markup shows nothing: its tags do not fit, or one has a number that cannot be read. -/
inductive MarkupFault where
  | badTag
  | badNumber
  deriving DecidableEq, Inhabited, Repr

/-- The name of a style as its tags are compared. -/
def styleName (name : String) : Except MarkupFault String :=
  match Style.ofText name with
  | .style s => .ok s.toText
  | .unknown => .ok (Text.lowercase (String.ofList (Text.trimBlanks name.toList)))
  | .badNumber => .error .badNumber

/-- Refuses a tag whose style cannot be used. -/
def checkStyle (t : Tag) : Except MarkupFault Unit :=
  match Style.ofText t.style with
  | .badNumber => .error .badNumber
  | _ => .ok ()

/-- Whether the parameters of a tag for an event can be used: nothing, a name, a name with a literal
in round brackets, or a literal. -/
def isHandler (parameters : String) : Bool :=
  let cs := Text.trimBlanks parameters.toList
  let rest := cs.dropWhile fun c => Text.isIdentifierPart c || c = '.'
  if rest.isEmpty then true
  else if rest.head? = some '(' ∧ rest.getLast? = some ')' ∧ !rest.contains '\n' then
    (Formula.literalOf? rest).isSome
  else (Formula.literalOf? cs).isSome

/-- Refuses a tag for an event whose parameters are no expression of literals; the style of any
other is used when all text is known. -/
def checkClosed (t : Tag) : Except MarkupFault (List Tag) :=
  if t.name.startsWith "@" then
    if t.parameters.all isHandler then .ok [] else .error .badTag
  else .ok [t]

/-- The open tags without the last one of the name. -/
def takeTag (name : String) : List Tag → Except MarkupFault (Tag × List Tag)
  | [] => .error .badTag
  | t :: rest =>
    if t.name = name then .ok (t, rest)
    else (takeTag name rest).map fun (found, others) => (found, t :: others)

/-- The tag that a closing tag closes, and those that stay open. -/
def closeTag (name : String) (opened : List Tag) : Except MarkupFault (Tag × List Tag) :=
  let name := String.ofList (Text.trimBlanks name.toList)
  if name.isEmpty then
    match opened with
    | t :: rest => .ok (t, rest)
    | [] => .error .badTag
  else do takeTag (← styleName name) opened

/-- The open tags and the closed ones after one more. -/
def applyTag (t : Tag) (opened closed : List Tag) : Except MarkupFault (List Tag × List Tag) :=
  match t.name.toList with
  | '/' :: name => do
    let (found, opened) ← closeTag (String.ofList name) opened
    return (opened, (← checkClosed found) ++ closed)
  | _ => do return ({ t with name := ← styleName t.name } :: opened, closed)

/-! ## Showing -/

/-- The characters that pieces show, between tags that are open and closed. -/
def shownChars (opened closed : List Tag) : List Piece → Except MarkupFault (List Char)
  | [] => do
    for t in closed.reverse ++ opened do checkStyle t
    return []
  | .text cs :: rest => (shownChars opened closed rest).map (shownText cs ++ ·)
  | .tag t :: rest => do
    let (opened, closed) ← applyTag t opened closed
    shownChars opened closed rest

/-- A control character that is never shown. -/
def isHidden (c : Char) : Bool :=
  c = '\x07' || c = '\x08' || c = '\x0b' || c = '\x0c' || c = '\r'

/-- The text with tabs replaced by spaces up to the next multiple of eight columns. -/
def expandTabs (column : Nat) : List Char → List Char
  | [] => []
  | c :: cs =>
    if c = '\t' then
      let width := 8 - column % 8
      List.replicate width ' ' ++ expandTabs (column + width) cs
    else if c = '\n' then c :: expandTabs 0 cs
    else c :: expandTabs (column + Text.columns c) cs

/-- The text that markup shows. -/
def showMarkup (markup : String) : Except MarkupFault String :=
  (shownChars [] [] (markupPieces (markup.length + 1) [] markup.toList)).map fun cs =>
    String.ofList (expandTabs 0 (cs.filter (!isHidden ·)))

end SolidityWire.CommandLine
