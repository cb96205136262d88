/-
Tokens of formulas: words, numbers, quoted texts and signs. Blanks, comments and, inside brackets,
line ends separate tokens; elsewhere a line end is a token of its own.
-/
import SolidityWire.Text.Compatible
import SolidityWire.Text.Identifier
import SolidityWire.Text.Numeral
import SolidityWire.Value.Basic

namespace SolidityWire.Formula

/-- What stands before the quote of a text: whether it is of bytes, whether a backslash stands for
itself, and whether it is a template. -/
structure QuoteKind where
  isBytes : Bool := false
  isRaw : Bool := false
  isTemplate : Bool := false
  deriving DecidableEq, Inhabited, Repr

/-- A token. A quoted text is kept as it is written; what begins a line says how far it is
indented, and what is broken has no tokens in it. -/
inductive Token where
  | word (name : String)
  | number (v : Value)
  | quoted (kind : QuoteKind) (body : List Char)
  | sign (s : String)
  | line (indent : Nat)
  | broken
  deriving Inhabited

/-! ## Words -/

/-- Whether the character may stand in a word. -/
def isWordPart (c : Char) : Bool :=
  c.isAlphanum || c = '_' || 128 ≤ c.toNat

/-- The words that have a meaning of their own. -/
def keywords : List String :=
  ["False", "None", "True", "and", "as", "assert", "async", "await", "break", "class", "continue",
    "def", "del", "elif", "else", "except", "finally", "for", "from", "global", "if", "import",
    "in", "is", "lambda", "nonlocal", "not", "or", "pass", "raise", "return", "try", "while",
    "with", "yield"]

/-- The token of a word. -/
def wordToken? (cs : List Char) : Option Token :=
  let name := String.ofList cs
  if keywords.contains name then some (.word name)
  else if Text.isIdentifier name then some (.word (Text.compatible name))
  else none

/-! ## Numbers -/

/-- Digits of a kind with single underscores between them, and what follows; an underscore may also
come first if `lead` says so. -/
def digitsAhead (isDigit : Char → Bool) (lead : Bool) : List Char → List Char × List Char
  | '_' :: c :: cs =>
    if lead && isDigit c then
      let (ds, rest) := digitsAhead isDigit true cs
      (c :: ds, rest)
    else ([], '_' :: c :: cs)
  | c :: cs =>
    if isDigit c then
      let (ds, rest) := digitsAhead isDigit true cs
      (c :: ds, rest)
    else ([], c :: cs)
  | [] => ([], [])

/-- The value of digits to a base. -/
def digitsNumber (base : Nat) (ds : List Char) : Nat :=
  ds.foldl (fun n c => n * base + (Text.hexValue? c).getD 0) 0

/-- The letter of a base, with the base and its digits. -/
def baseOf? : Char → Option (Nat × (Char → Bool))
  | 'x' | 'X' => some (16, fun c => (Text.hexValue? c).isSome)
  | 'o' | 'O' => some (8, fun c => '0' ≤ c && c ≤ '7')
  | 'b' | 'B' => some (2, fun c => c = '0' || c = '1')
  | _ => none

/-- The exponent of a number, if one comes next, and what follows. -/
def exponentAhead (cs : List Char) : List Char × List Char :=
  match cs with
  | e :: rest =>
    if e = 'e' ∨ e = 'E' then
      let (mark, digits) := match rest with
        | '+' :: more => (['+'], more)
        | '-' :: more => (['-'], more)
        | more => ([], more)
      match digitsAhead Char.isDigit false digits with
      | ([], _) => ([], cs)
      | (ds, behind) => ('e' :: mark ++ ds, behind)
    else ([], cs)
  | [] => ([], [])

/-- The text of a number as a floating-point one. -/
def floatValue (cs : List Char) : Binary64 :=
  (Binary64.ofText? (String.ofList cs)).getD .nan

/-- The text of an imaginary number. -/
def imaginary (x : Binary64) : Value :=
  let text := (x.toText .message).toList
  let short := if text.reverse.take 2 = ['0', '.'] then text.take (text.length - 2) else text
  .foreign (String.ofList short ++ "j") "complex"

/-- Refuses a number that a word runs into, unless it is a word between formulas. -/
def endNumber (v : Value) (rest : List Char) : Option (Value × List Char) :=
  let word := String.ofList (rest.takeWhile isWordPart)
  let between := ["and", "else", "for", "if", "in", "is", "not", "or"]
  if word.isEmpty || between.any (word.startsWith ·) then some (v, rest) else none

/-- The decimal number that comes next, and what follows. A whole one has no zeros in front. -/
def decimalAhead? (cs : List Char) : Option (Value × List Char) :=
  let (whole, rest) := digitsAhead Char.isDigit false cs
  let (fraction, hasPoint, rest) := match rest with
    | '.' :: more =>
      let (ds, behind) := digitsAhead Char.isDigit false more
      (ds, true, behind)
    | more => ([], false, more)
  let (power, rest) := exponentAhead rest
  let text := whole ++ (if hasPoint then '.' :: fraction else []) ++ power
  match rest with
  | 'j' :: behind | 'J' :: behind => endNumber (imaginary (floatValue text)) behind
  | rest =>
    if hasPoint || !power.isEmpty then endNumber (.float (floatValue text)) rest
    else if whole.head? = some '0' ∧ whole.any (· ≠ '0') then none
    else if Text.mostDigits < whole.length then none
    else endNumber (.integer (digitsNumber 10 whole)) rest

/-- The number that comes next, and what follows. -/
def numberAhead? (cs : List Char) : Option (Value × List Char) :=
  match cs with
  | '0' :: letter :: rest =>
    match baseOf? letter with
    | some (base, isDigit) =>
      match digitsAhead isDigit true rest with
      | ([], _) => none
      | (ds, behind) => endNumber (.integer (digitsNumber base ds)) behind
    | none => decimalAhead? cs
  | cs => decimalAhead? cs

/-! ## Quoted texts -/

/-- What stands before a quote, if it is allowed there. -/
def quoteKind? (front : List Char) : Option QuoteKind :=
  match front.map Char.toLower with
  | [] | ['u'] => some {}
  | ['r'] => some { isRaw := true }
  | ['b'] => some { isBytes := true }
  | ['f'] => some { isTemplate := true }
  | ['b', 'r'] | ['r', 'b'] => some { isBytes := true, isRaw := true }
  | ['f', 'r'] | ['r', 'f'] => some { isTemplate := true, isRaw := true }
  | _ => none

/-- The body of a quoted text up to its closing quote, and what follows. -/
def bodyAhead? (quote : Char) (triple : Bool) (done : List Char) :
    List Char → Option (List Char × List Char)
  | [] => none
  | '\\' :: c :: cs => bodyAhead? quote triple (c :: '\\' :: done) cs
  | c :: cs =>
    if c = quote then
      if !triple then some (done.reverse, cs)
      else
        match cs with
        | d :: e :: rest =>
          if d = quote ∧ e = quote then some (done.reverse, rest)
          else bodyAhead? quote triple (c :: done) (d :: e :: rest)
        | _ => none
    else if c = '\n' ∧ !triple then none
    else bodyAhead? quote triple (c :: done) cs

/-- The quoted text behind what stands before its quote, and what follows. Bytes are of ASCII. -/
def quotedAhead? (kind : QuoteKind) (quote : Char) (cs : List Char) :
    Option (Token × List Char) := do
  let (body, rest) ←
    match cs with
    | c :: d :: more =>
      if c = quote ∧ d = quote then bodyAhead? quote true [] more else bodyAhead? quote false [] cs
    | cs => bodyAhead? quote false [] cs
  if kind.isBytes && body.any (128 ≤ ·.toNat) then none else some (.quoted kind body, rest)

/-- The word that comes next, or the quoted text whose kind it says, and what follows. -/
def wordAhead? (cs : List Char) : Option (Token × List Char) :=
  let word := cs.takeWhile isWordPart
  let plain (rest : List Char) : Option (Token × List Char) := (wordToken? word).map (·, rest)
  match cs.drop word.length, quoteKind? word with
  | '\'' :: rest, some kind => quotedAhead? kind '\'' rest
  | '"' :: rest, some kind => quotedAhead? kind '"' rest
  | rest, _ => plain rest

/-! ## Signs -/

/-- The signs of more than one character, the longest first. -/
def longSigns : List String :=
  ["**=", "//=", ">>=", "<<=", "...", "!=", "->", ":=", "+=", "-=", "*=", "/=", "%=", "&=", "|=",
    "^=", "@=", "**", "//", "<<", ">>", "<=", ">=", "=="]

/-- The signs of one character. -/
def shortSigns : List Char :=
  ['+', '-', '*', '/', '%', '@', '&', '|', '^', '~', '<', '>', '(', ')', '[', ']', '\x7b', '\x7d',
    ',', ':', '.', ';', '=']

/-- The sign that comes next, and what follows. -/
def signAhead? (cs : List Char) : Option (String × List Char) :=
  match longSigns.find? fun s => s.toList.isPrefixOf cs with
  | some s => some (s, cs.drop s.length)
  | none =>
    match cs with
    | c :: rest => if shortSigns.contains c then some (String.singleton c, rest) else none
    | [] => none

/-- How many brackets may be open. -/
def mostBrackets : Nat := 200

/-- The brackets that are open after a sign, each by the sign that closes it. -/
def bracketsAfter? (opened : List String) (s : String) : Option (List String) :=
  let one (closing : String) : Option (List String) :=
    if opened.length < mostBrackets then some (closing :: opened) else none
  match s with
  | "(" => one ")"
  | "[" => one "]"
  | "\x7b" => one "\x7d"
  | ")" | "]" | "\x7d" =>
    match opened with
    | o :: rest => if o = s then some rest else none
    | [] => none
  | _ => some opened

/-! ## Reading -/

/-- The width of the blanks that a line begins with. -/
def indentWidth (blanks : List Char) : Nat :=
  blanks.foldl (fun n c => if c = '\t' then (n / 8 + 1) * 8 else if c = '\x0c' then 0 else n + 1) 0

/-- Whether the character is a blank between tokens. -/
def isGap (c : Char) : Bool :=
  c = ' ' || c = '\t' || c = '\x0c'

/-- Line ends of any kind as one character. -/
def plainLines : List Char → List Char
  | '\r' :: '\n' :: cs => '\n' :: plainLines cs
  | '\r' :: cs => '\n' :: plainLines cs
  | c :: cs => c :: plainLines cs
  | [] => []

/-- The tokens of a text, given the brackets that are open. What follows a part that is no token, or
brackets that do not match, is broken. -/
def tokensFrom (opened : List String) : (fuel : Nat) → List Char → List Token
  | 0, _ => [.broken]
  | _ + 1, [] => if opened.isEmpty then [] else [.broken]
  | fuel + 1, c :: cs =>
    if isGap c then tokensFrom opened fuel cs
    else if c = '#' then tokensFrom opened fuel (cs.dropWhile (· ≠ '\n'))
    else if c = '\n' then
      let behind := cs.dropWhile isGap
      match behind with
      | '\n' :: _ | '#' :: _ | [] => tokensFrom opened fuel behind
      | behind =>
        if opened.isEmpty then
          .line (indentWidth (cs.takeWhile isGap)) :: tokensFrom opened fuel behind
        else tokensFrom opened fuel behind
    else if c = '\\' then
      match cs with
      | '\n' :: rest => tokensFrom opened fuel rest
      | _ => [.broken]
    else if c = '\'' ∨ c = '"' then
      match quotedAhead? {} c cs with
      | some (t, rest) => t :: tokensFrom opened fuel rest
      | none => [.broken]
    else if c.isDigit || (c = '.' && cs.head?.any Char.isDigit) then
      match numberAhead? (c :: cs) with
      | some (v, rest) => .number v :: tokensFrom opened fuel rest
      | none => [.broken]
    else if isWordPart c then
      match wordAhead? (c :: cs) with
      | some (t, rest) => t :: tokensFrom opened fuel rest
      | none => [.broken]
    else
      match signAhead? (c :: cs) with
      | some (s, rest) =>
        match bracketsAfter? opened s with
        | some opened => .sign s :: tokensFrom opened fuel rest
        | none => [.broken]
      | none => [.broken]

/-- The tokens of a text. -/
def tokens (cs : List Char) : List Token :=
  tokensFrom [] (cs.length + 1) cs

end SolidityWire.Formula
