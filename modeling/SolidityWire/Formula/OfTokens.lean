/-
Formulas from tokens, by precedence. A quoted template is read to pieces, whose formulas are read
from the tokens of their texts.
-/
import SolidityWire.Formula.Basic
import SolidityWire.Formula.Escape
import SolidityWire.Formula.Token

namespace SolidityWire

namespace Formula

/-! ## Operators -/

/-- The operators between two formulas, by how loosely they bind. -/
def binaryLevels : List (List (String × BinaryOp)) :=
  [[("|", .bitOr)], [("^", .bitXor)], [("&", .bitAnd)],
    [("<<", .shiftLeft), (">>", .shiftRight)], [("+", .add), ("-", .sub)],
    [("*", .mul), ("@", .matMul), ("/", .div), ("//", .floorDiv), ("%", .mod)]]

/-- The operator of a level that comes next, and what follows. -/
def binaryAhead? (level : Nat) : List Token → Option (BinaryOp × List Token)
  | .sign s :: ts => ((binaryLevels.getD level []).lookup s).map (·, ts)
  | _ => none

/-- The comparison that comes next, and what follows. -/
def compareAhead? : List Token → Option (CompareOp × List Token)
  | .sign "==" :: ts => some (.eq, ts)
  | .sign "!=" :: ts => some (.ne, ts)
  | .sign "<" :: ts => some (.lt, ts)
  | .sign "<=" :: ts => some (.le, ts)
  | .sign ">" :: ts => some (.gt, ts)
  | .sign ">=" :: ts => some (.ge, ts)
  | .word "in" :: ts => some (.isIn, ts)
  | .word "not" :: .word "in" :: ts => some (.notIn, ts)
  | .word "is" :: .word "not" :: ts => some (.notSame, ts)
  | .word "is" :: ts => some (.same, ts)
  | _ => none

/-- The operator in front of a formula that comes next, and what follows. -/
def unaryAhead? : List Token → Option (UnaryOp × List Token)
  | .sign "+" :: ts => some (.plus, ts)
  | .sign "-" :: ts => some (.minus, ts)
  | .sign "~" :: ts => some (.invert, ts)
  | _ => none

/-! ## Parts of templates -/

/-- The text of a template up to a brace that is not doubled, or to its end. Braces are doubled only
outside of formats, and not in the names of characters. -/
def chunkAhead (isRaw isTop : Bool) (done : List Char) : List Char → List Char × List Char
  | [] => (done.reverse, [])
  | '\\' :: 'N' :: '\x7b' :: cs =>
    if isRaw then ('N' :: '\\' :: done |>.reverse, '\x7b' :: cs)
    else
      let name := cs.takeWhile (· ≠ '\x7d')
      match h : cs.dropWhile (· ≠ '\x7d') with
      | _ :: rest =>
        have : rest.length < cs.length := by
          have := (List.dropWhile_sublist (l := cs) (· ≠ '\x7d')).length_le
          rw [h, List.length_cons] at this
          omega
        chunkAhead isRaw isTop ('\x7d' :: name.reverse ++ ('\x7b' :: 'N' :: '\\' :: done)) rest
      | [] => ((name.reverse ++ ('\x7b' :: 'N' :: '\\' :: done)).reverse, [])
  | c :: d :: cs =>
    if c = '\x7b' ∨ c = '\x7d' then
      if isTop ∧ d = c then chunkAhead isRaw isTop (c :: done) cs else (done.reverse, c :: d :: cs)
    else if c = '\\' ∧ !isRaw ∧ d ≠ '\x7b' ∧ d ≠ '\x7d' then
      chunkAhead isRaw isTop (d :: c :: done) cs
    else chunkAhead isRaw isTop (c :: done) (d :: cs)
  | [c] => if c = '\x7b' ∨ c = '\x7d' then (done.reverse, [c]) else ((c :: done).reverse, [])
termination_by cs => cs.length

/-- Where the text of a formula inside a template stands: in a quoted text, with its quote and
whether that is tripled, or inside brackets, each by the character that closes it. -/
structure FillState where
  quote : Option (Char × Bool) := none
  opened : List Char := []
  deriving DecidableEq, Inhabited, Repr

/-- The text of a formula in a template up to what ends it, and what follows. There are neither
backslashes nor comments in it. -/
def fillAhead? (st : FillState) (done : List Char) : List Char → Option (List Char × List Char)
  | [] => none
  | c :: cs =>
    if c = '\\' then none
    else
      match st.quote with
      | some (quote, triple) =>
        if c ≠ quote then fillAhead? st (c :: done) cs
        else if !triple then fillAhead? { st with quote := none } (c :: done) cs
        else
          match cs with
          | d :: e :: rest =>
            if d = quote ∧ e = quote then
              fillAhead? { st with quote := none } (e :: d :: c :: done) rest
            else fillAhead? st (c :: done) (d :: e :: rest)
          | cs => fillAhead? st (c :: done) cs
      | none =>
        if c = '\'' ∨ c = '"' then
          match cs with
          | d :: e :: rest =>
            if d = c ∧ e = c then
              fillAhead? { st with quote := some (c, true) } (e :: d :: c :: done) rest
            else fillAhead? { st with quote := some (c, false) } (c :: done) (d :: e :: rest)
          | cs => fillAhead? { st with quote := some (c, false) } (c :: done) cs
        else if c = '(' then fillAhead? { st with opened := ')' :: st.opened } (c :: done) cs
        else if c = '[' then fillAhead? { st with opened := ']' :: st.opened } (c :: done) cs
        else if c = '\x7b' then
          fillAhead? { st with opened := '\x7d' :: st.opened } (c :: done) cs
        else if c = '#' then none
        else if st.opened.isEmpty && ['!', ':', '\x7d', '=', '<', '>'].contains c then
          match cs with
          | '=' :: rest =>
            if ['!', '=', '<', '>'].contains c then fillAhead? st ('=' :: c :: done) rest
            else some (done.reverse, c :: cs)
          | cs =>
            if c = '<' ∨ c = '>' then fillAhead? st (c :: done) cs
            else some (done.reverse, c :: cs)
        else if c = ')' ∨ c = ']' ∨ c = '\x7d' then
          match st.opened with
          | o :: opened =>
            if o = c then fillAhead? { st with opened } (c :: done) cs else none
          | [] => none
        else fillAhead? st (c :: done) cs

/-- The letter of a conversion. -/
def conversionOf? : Char → Option Conversion
  | 's' => some .plain
  | 'r' => some .literal
  | 'a' => some .asciiLiteral
  | _ => none

/-- The conversion that comes next, if any, and what follows; `none` for a wrong letter. -/
def conversionAhead? : List Char → Option (Option Conversion × List Char)
  | '!' :: c :: rest => (conversionOf? c).map fun k => (some k, rest)
  | '!' :: [] => none
  | cs => some (none, cs)

/-! ## Names that get values -/

/-- Whether a formula may be given values. -/
def isTarget : Formula → Bool
  | .name _ | .field .. | .item .. => true
  | .tuple items | .list items => items.attach.all fun ⟨f, _⟩ => f.isTarget
  | .spread f => f.isTarget
  | _ => false

/-- Whether no argument follows one that has to stand before it. -/
def inOrder : List (ArgumentKind × Formula) → Bool
  | [] => true
  | (.plain, _) :: rest => inOrder rest
  | (.items, _) :: rest => inOrder rest
  | (.named _, _) :: rest => rest.all fun (k, _) => k ≠ .plain ∧ k ≠ .onlyOne
  | (.entries, _) :: rest => rest.all fun (k, _) => k ≠ .plain ∧ k ≠ .onlyOne ∧ k ≠ .items
  | (.onlyOne, _) :: _ => false

/-- Whether arguments are allowed: plain ones before named ones, or values one by one alone. -/
def areArguments : List (ArgumentKind × Formula) → Bool
  | [(.onlyOne, _)] => true
  | arguments => inOrder arguments

/-- What adjacent quoted texts stand for together: bytes, a text, or a template. -/
def ofQuoted? (parts : List (QuoteKind × List Piece)) : Option Formula :=
  let pieces := parts.flatMap Prod.snd
  let text := String.join (pieces.map fun | .text s => s | .fill .. => "")
  if parts.all (·.1.isBytes) then
    some (.constant (.bytes (text.toList.map fun c => c.toNat.toUInt8)))
  else if parts.any (·.1.isBytes) then none
  else if parts.any (·.1.isTemplate) then some (.template pieces)
  else some (.constant (.text text))

/-! ## Reading -/

/-- A formula that comes next, and the tokens that follow. -/
abbrev Read := Option (Formula × List Token)

mutual

/-- Reads a formula, or the naming of one. -/
def readNamed : (fuel : Nat) → List Token → Read
  | 0, _ => none
  | n + 1, .word w :: .sign ":=" :: ts => do
    if keywords.contains w then none
    let (f, ts) ← readFormula n ts
    return (.assign w f, ts)
  | n + 1, ts => readFormula n ts
termination_by structural fuel => fuel

/-- Reads a formula that may be a choice between two by a condition, or a function. -/
def readFormula : (fuel : Nat) → List Token → Read
  | 0, _ => none
  | n + 1, .word "lambda" :: ts => readFunction n ts
  | n + 1, ts => do
    let (yes, ts) ← readEither n ts
    match ts with
    | .word "if" :: ts => do
      let (condition, ts) ← readEither n ts
      match ts with
      | .word "else" :: ts => do
        let (no, ts) ← readFormula n ts
        return (.choose condition yes no, ts)
      | _ => none
    | ts => return (yes, ts)
termination_by structural fuel => fuel

/-- Reads the parameters and the body of a function. -/
def readFunction : (fuel : Nat) → List Token → Read
  | 0, _ => none
  | n + 1, .sign ":" :: ts => do
    let (f, ts) ← readFormula n ts
    return (.unused [f], ts)
  | n + 1, .word w :: ts =>
    if keywords.contains w then none
    else
      match ts with
      | .sign "," :: ts => readFunction n ts
      | .sign "=" :: ts => do
        let (_, ts) ← readFormula n ts
        match ts with
        | .sign "," :: ts => readFunction n ts
        | .sign ":" :: _ => readFunction n ts
        | _ => none
      | .sign ":" :: _ => readFunction n ts
      | _ => none
  | n + 1, .sign "*" :: .sign "," :: ts => readFunction n ts
  | n + 1, .sign "*" :: .word w :: ts => readFunction n (.word w :: ts)
  | n + 1, .sign "**" :: .word w :: ts => readFunction n (.word w :: ts)
  | _ + 1, _ => none
termination_by structural fuel => fuel

/-- Reads alternatives. -/
def readEither : (fuel : Nat) → List Token → Read
  | 0, _ => none
  | n + 1, ts => do
    let (a, ts) ← readBoth n ts
    match ts with
    | .word "or" :: ts => do
      let (b, ts) ← readEither n ts
      return (.either a b, ts)
    | ts => return (a, ts)
termination_by structural fuel => fuel

/-- Reads conditions that hold together. -/
def readBoth : (fuel : Nat) → List Token → Read
  | 0, _ => none
  | n + 1, ts => do
    let (a, ts) ← readNegation n ts
    match ts with
    | .word "and" :: ts => do
      let (b, ts) ← readBoth n ts
      return (.both a b, ts)
    | ts => return (a, ts)
termination_by structural fuel => fuel

/-- Reads a comparison that may be negated. -/
def readNegation : (fuel : Nat) → List Token → Read
  | 0, _ => none
  | n + 1, .word "not" :: ts => do
    let (f, ts) ← readNegation n ts
    return (.unary .negate f, ts)
  | n + 1, ts => do
    let (a, ts) ← readBinary n 0 ts
    let (rest, ts) ← readComparisons n ts
    return (if rest.isEmpty then a else .compare a rest, ts)
termination_by structural fuel => fuel

/-- Reads the comparisons with further formulas. -/
def readComparisons : (fuel : Nat) → List Token →
    Option (List (CompareOp × Formula) × List Token)
  | 0, _ => none
  | n + 1, ts =>
    match compareAhead? ts with
    | some (op, ts) => do
      let (b, ts) ← readBinary n 0 ts
      let (rest, ts) ← readComparisons n ts
      return ((op, b) :: rest, ts)
    | none => some ([], ts)
termination_by structural fuel => fuel

/-- Reads operators that bind at least as closely as a level. -/
def readBinary : (fuel level : Nat) → List Token → Read
  | 0, _, _ => none
  | n + 1, level, ts =>
    if level < binaryLevels.length then do
      let (a, ts) ← readBinary n (level + 1) ts
      readBinaryRest n level a ts
    else readFactor n ts
termination_by structural fuel => fuel

/-- Reads further operators of a level behind a formula. -/
def readBinaryRest : (fuel level : Nat) → Formula → List Token → Read
  | 0, _, _, _ => none
  | n + 1, level, a, ts =>
    match binaryAhead? level ts with
    | some (op, ts) => do
      let (b, ts) ← readBinary n (level + 1) ts
      readBinaryRest n level (.binary op a b) ts
    | none => some (a, ts)
termination_by structural fuel => fuel

/-- Reads a formula with signs in front and a power behind. -/
def readFactor : (fuel : Nat) → List Token → Read
  | 0, _ => none
  | n + 1, ts =>
    match unaryAhead? ts with
    | some (op, ts) => do
      let (f, ts) ← readFactor n ts
      return (.unary op f, ts)
    | none => do
      let (a, ts) ← readAtom n ts
      let (a, ts) ← readTrailers n a ts
      match ts with
      | .sign "**" :: ts => do
        let (b, ts) ← readFactor n ts
        return (.binary .pow a b, ts)
      | ts => return (a, ts)
termination_by structural fuel => fuel

/-- Reads look-ups and calls behind a formula. -/
def readTrailers : (fuel : Nat) → Formula → List Token → Read
  | 0, _, _ => none
  | n + 1, a, .sign "." :: .word w :: ts =>
    if keywords.contains w then none else readTrailers n (.field a w) ts
  | n + 1, a, .sign "[" :: ts => do
    let (index, ts) ← readIndex n ts
    readTrailers n (.item a index) ts
  | n + 1, a, .sign "(" :: ts => do
    let (arguments, ts) ← readArguments n ts
    if areArguments arguments then readTrailers n (.call a arguments) ts else none
  | _ + 1, a, ts => some (a, ts)
termination_by structural fuel => fuel

/-- Reads what stands between square brackets behind a formula. -/
def readIndex : (fuel : Nat) → List Token → Read
  | 0, _ => none
  | n + 1, ts => do
    let (f, ts) ← readSlice n ts
    match ts with
    | .sign "]" :: ts => return (match f with | .spread _ => .tuple [f] | f => f, ts)
    | .sign "," :: ts => do
      let (rest, ts) ← readSlices n ts
      return (.tuple (f :: rest), ts)
    | _ => none
termination_by structural fuel => fuel

/-- Reads further parts between square brackets. -/
def readSlices : (fuel : Nat) → List Token → Option (List Formula × List Token)
  | 0, _ => none
  | _ + 1, .sign "]" :: ts => some ([], ts)
  | n + 1, ts => do
    let (f, ts) ← readSlice n ts
    match ts with
    | .sign "]" :: ts => return ([f], ts)
    | .sign "," :: ts => do
      let (rest, ts) ← readSlices n ts
      return (f :: rest, ts)
    | _ => none
termination_by structural fuel => fuel

/-- Reads one part between square brackets: a formula or bounds. -/
def readSlice : (fuel : Nat) → List Token → Read
  | 0, _ => none
  | n + 1, ts => do
    let (start, ts) ← readBound n ts
    match start, ts with
    | start, .sign ":" :: ts => do
      let (stop, ts) ← readBound n ts
      match ts with
      | .sign ":" :: ts => do
        let (step, ts) ← readBound n ts
        return (.slice start stop step, ts)
      | ts => return (.slice start stop none, ts)
    | some f, ts => return (f, ts)
    | none, _ => none
termination_by structural fuel => fuel

/-- Reads a bound, which may be missing. -/
def readBound : (fuel : Nat) → List Token → Option (Option Formula × List Token)
  | 0, _ => none
  | _ + 1, .sign ":" :: ts => some (none, .sign ":" :: ts)
  | _ + 1, .sign "]" :: ts => some (none, .sign "]" :: ts)
  | _ + 1, .sign "," :: ts => some (none, .sign "," :: ts)
  | n + 1, ts => do
    let (f, ts) ← readStarred n ts
    return (some f, ts)
termination_by structural fuel => fuel

/-- Reads the arguments of a call up to the bracket that closes it. -/
def readArguments : (fuel : Nat) → List Token →
    Option (List (ArgumentKind × Formula) × List Token)
  | 0, _ => none
  | _ + 1, .sign ")" :: ts => some ([], ts)
  | n + 1, ts => do
    let (argument, ts) ← readArgument n ts
    match ts with
    | .sign ")" :: ts => return ([argument], ts)
    | .sign "," :: ts => do
      let (rest, ts) ← readArguments n ts
      return (argument :: rest, ts)
    | _ => none
termination_by structural fuel => fuel

/-- Reads one argument of a call. -/
def readArgument : (fuel : Nat) → List Token →
    Option ((ArgumentKind × Formula) × List Token)
  | 0, _ => none
  | n + 1, .sign "*" :: ts => do
    let (f, ts) ← readFormula n ts
    return ((.items, f), ts)
  | n + 1, .sign "**" :: ts => do
    let (f, ts) ← readFormula n ts
    return ((.entries, f), ts)
  | n + 1, .word w :: .sign "=" :: ts => do
    if keywords.contains w then none
    let (f, ts) ← readFormula n ts
    return ((.named w, f), ts)
  | n + 1, ts => do
    let (f, ts) ← readNamed n ts
    match ts with
    | .word "for" :: _ => do
      let (f, ts) ← readEach n f ts
      return ((.onlyOne, f), ts)
    | ts => return ((.plain, f), ts)
termination_by structural fuel => fuel

/-- Reads a formula that may stand for all of its items. -/
def readStarred : (fuel : Nat) → List Token → Read
  | 0, _ => none
  | n + 1, .sign "*" :: ts => do
    let (f, ts) ← readBinary n 0 ts
    return (.spread f, ts)
  | n + 1, ts => readNamed n ts
termination_by structural fuel => fuel

/-- Reads formulas between commas up to a closing bracket; says whether a comma comes last. -/
def readItems : (fuel : Nat) → (closing : String) → List Token →
    Option (List Formula × Bool × List Token)
  | 0, _, _ => none
  | n + 1, closing, ts => do
    let (f, ts) ← readStarred n ts
    readItemsBehind n closing f ts
termination_by structural fuel => fuel

/-- Reads formulas between commas behind the first one. -/
def readItemsBehind : (fuel : Nat) → (closing : String) → Formula → List Token →
    Option (List Formula × Bool × List Token)
  | 0, _, _, _ => none
  | n + 1, closing, f, ts =>
    match ts with
    | .sign "," :: .sign s :: ts =>
      if s = closing then some ([f], true, ts)
      else do
        let (rest, comma, ts) ← readItems n closing (.sign s :: ts)
        return (f :: rest, comma, ts)
    | .sign "," :: ts => do
      let (rest, comma, ts) ← readItems n closing ts
      return (f :: rest, comma, ts)
    | .sign s :: ts => if s = closing then some ([f], false, ts) else none
    | _ => none
termination_by structural fuel => fuel

/-- Reads the items that a value is given for, behind the formula of the value. -/
def readEach : (fuel : Nat) → Formula → List Token → Read
  | 0, _, _ => none
  | n + 1, value, .word "for" :: ts => do
    let (target, ts) ← readTargets n ts
    if !isTarget target then none
    let (items, ts) ← readEither n ts
    let (conditions, ts) ← readConditions n ts
    match ts, target with
    | .word "for" :: _, _ => readEach n (.unused [value, items]) ts
    | ts, .name w => return (.each value w items conditions, ts)
    | ts, _ => return (.unused [value, items], ts)
  | _ + 1, _, _ => none
termination_by structural fuel => fuel

/-- Reads what gets the items, up to the word that leads to them. -/
def readTargets : (fuel : Nat) → List Token → Read
  | 0, _ => none
  | n + 1, ts => do
    let (f, ts) ← match ts with
      | .sign "*" :: ts => do
        let (f, ts) ← readBinary n 0 ts
        pure (.spread f, ts)
      | ts => readBinary n 0 ts
    match ts with
    | .word "in" :: ts => return (f, ts)
    | .sign "," :: .word "in" :: ts => return (.tuple [f], ts)
    | .sign "," :: ts => do
      let (rest, ts) ← readTargets n ts
      return (.tuple [f, rest], ts)
    | _ => none
termination_by structural fuel => fuel

/-- Reads the conditions on items. -/
def readConditions : (fuel : Nat) → List Token → Option (List Formula × List Token)
  | 0, _ => none
  | n + 1, .word "if" :: ts => do
    let (f, ts) ← readEither n ts
    let (rest, ts) ← readConditions n ts
    return (f :: rest, ts)
  | _ + 1, ts => some ([], ts)
termination_by structural fuel => fuel

/-- Reads what stands between round brackets. -/
def readGroup : (fuel : Nat) → List Token → Read
  | 0, _ => none
  | _ + 1, .sign ")" :: ts => some (.tuple [], ts)
  | n + 1, ts => do
    let (f, ts) ← readStarred n ts
    match ts with
    | .word "for" :: _ => do
      let (f, ts) ← readEach n f ts
      match ts with
      | .sign ")" :: ts => return (.unused [f], ts)
      | _ => none
    | ts => do
      let (items, comma, ts) ← readItemsBehind n ")" f ts
      match items, comma with
      | [.spread _], false => none
      | [f], false => return (f, ts)
      | items, _ => return (.tuple items, ts)
termination_by structural fuel => fuel

/-- Reads what stands between square brackets on its own. -/
def readList : (fuel : Nat) → List Token → Read
  | 0, _ => none
  | _ + 1, .sign "]" :: ts => some (.list [], ts)
  | n + 1, ts => do
    let (f, ts) ← readStarred n ts
    match ts with
    | .word "for" :: _ => do
      let (f, ts) ← readEach n f ts
      match ts with
      | .sign "]" :: ts => return (f, ts)
      | _ => none
    | ts => do
      let (items, _, ts) ← readItemsBehind n "]" f ts
      return (.list items, ts)
termination_by structural fuel => fuel

/-- Reads what stands between braces: entries or items. -/
def readBraces : (fuel : Nat) → List Token → Read
  | 0, _ => none
  | _ + 1, .sign "\x7d" :: ts => some (.dict [], ts)
  | n + 1, .sign "**" :: ts => do
    let (entries, ts) ← readEntries n (.sign "**" :: ts)
    return (.dict entries, ts)
  | n + 1, ts => do
    let (f, ts) ← readStarred n ts
    match ts with
    | .sign ":" :: ts => do
      let (value, ts) ← readFormula n ts
      let (entries, ts) ← readEntriesBehind n (some f, value) ts
      return (.dict entries, ts)
    | .word "for" :: _ => do
      let (f, ts) ← readEach n f ts
      match ts with
      | .sign "\x7d" :: ts => return (.unused [f], ts)
      | _ => none
    | ts => do
      let (items, _, ts) ← readItemsBehind n "\x7d" f ts
      return (.set items, ts)
termination_by structural fuel => fuel

/-- Reads entries up to the brace that closes them. -/
def readEntries : (fuel : Nat) → List Token →
    Option (List (Option Formula × Formula) × List Token)
  | 0, _ => none
  | _ + 1, .sign "\x7d" :: ts => some ([], ts)
  | n + 1, ts => do
    let (entry, ts) ← readEntry n ts
    readEntriesBehind n entry ts
termination_by structural fuel => fuel

/-- Reads entries behind the first one. -/
def readEntriesBehind : (fuel : Nat) → Option Formula × Formula → List Token →
    Option (List (Option Formula × Formula) × List Token)
  | 0, _, _ => none
  | n + 1, entry, ts =>
    match ts with
    | .sign "\x7d" :: ts => some ([entry], ts)
    | .sign "," :: ts => do
      let (rest, ts) ← readEntries n ts
      return (entry :: rest, ts)
    | .word "for" :: _ => do
      let (f, ts) ← readEach n entry.2 ts
      match ts with
      | .sign "\x7d" :: ts => return ([(none, .unused [f])], ts)
      | _ => none
    | _ => none
termination_by structural fuel => fuel

/-- Reads an entry, or what stands for all entries of another mapping. -/
def readEntry : (fuel : Nat) → List Token →
    Option ((Option Formula × Formula) × List Token)
  | 0, _ => none
  | n + 1, .sign "**" :: ts => do
    let (f, ts) ← readBinary n 0 ts
    return ((none, f), ts)
  | n + 1, ts => do
    let (key, ts) ← readFormula n ts
    match ts with
    | .sign ":" :: ts => do
      let (value, ts) ← readFormula n ts
      return ((some key, value), ts)
    | _ => none
termination_by structural fuel => fuel

/-- Reads a formula that needs no brackets to be one. -/
def readAtom : (fuel : Nat) → List Token → Read
  | 0, _ => none
  | n + 1, .quoted kind body :: ts => do
    let (parts, ts) ← readQuoted n (.quoted kind body :: ts)
    return (← ofQuoted? parts, ts)
  | n + 1, .sign "(" :: ts => readGroup n ts
  | n + 1, .sign "[" :: ts => readList n ts
  | n + 1, .sign "\x7b" :: ts => readBraces n ts
  | _ + 1, .sign "..." :: ts => some (.constant (.foreign "Ellipsis" "ellipsis"), ts)
  | _ + 1, .number v :: ts => some (.constant v, ts)
  | _ + 1, .word "None" :: ts => some (.constant .null, ts)
  | _ + 1, .word "True" :: ts => some (.constant (.boolean true), ts)
  | _ + 1, .word "False" :: ts => some (.constant (.boolean false), ts)
  | _ + 1, .word w :: ts => if keywords.contains w then none else some (.name w, ts)
  | _ + 1, _ => none
termination_by structural fuel => fuel

/-- Reads adjacent quoted texts, each of its kind. -/
def readQuoted : (fuel : Nat) → List Token →
    Option (List (QuoteKind × List Piece) × List Token)
  | 0, _ => none
  | n + 1, .quoted kind body :: ts => do
    let pieces ←
      if kind.isTemplate then
        match ← readPieces n kind.isRaw true body with
        | (pieces, []) => some pieces
        | _ => none
      else (bodyText? kind.isBytes kind.isRaw body).map fun cs => [.text (String.ofList cs)]
    let (rest, ts) ← readQuoted n ts
    return ((kind, pieces) :: rest, ts)
  | _ + 1, ts => some ([], ts)
termination_by structural fuel => fuel

/-- Reads the pieces of a template, or of a format up to the brace that closes it. -/
def readPieces : (fuel : Nat) → (isRaw isTop : Bool) → List Char →
    Option (List Piece × List Char)
  | 0, _, _, _ => none
  | n + 1, isRaw, isTop, cs => do
    let (chunk, rest) := chunkAhead isRaw isTop [] cs
    let text ← bodyText? false isRaw chunk
    let front := if text.isEmpty then [] else [Piece.text (String.ofList text)]
    match rest with
    | '\x7b' :: rest => do
      let (fill, rest) ← readFill n isRaw isTop rest
      let (pieces, rest) ← readPieces n isRaw isTop rest
      return (front ++ fill ++ pieces, rest)
    | '\x7d' :: rest => if isTop then none else return (front, '\x7d' :: rest)
    | rest => return (front, rest)
termination_by structural fuel => fuel

/-- Reads what is filled in behind an open brace: a formula, its text as well behind an equality
sign, a conversion, and a format in which formulas may be filled in once more. -/
def readFill : (fuel : Nat) → (isRaw isTop : Bool) → List Char →
    Option (List Piece × List Char)
  | 0, _, _, _ => none
  | n + 1, isRaw, isTop, cs => do
    let (text, rest) ← fillAhead? {} [] cs
    if text.all fun c => isGap c ∨ c = '\n' then none
    let (f, behind) ← readWritten n ('(' :: text ++ [')'])
    if !behind.isEmpty then none
    let (shown, rest) := match rest with
      | '=' :: more =>
        let blanks := more.takeWhile fun c => isGap c ∨ c = '\n' ∨ c = '\x0b'
        ([Piece.text (String.ofList (text ++ '=' :: blanks))], more.drop blanks.length)
      | rest => ([], rest)
    let (conversion, rest) ← conversionAhead? rest
    let (hasSpec, spec, rest) ← match rest with
      | ':' :: more => do
        let (spec, rest) ← readSpec n isRaw isTop more
        pure (true, spec, rest)
      | rest => pure (false, [], rest)
    match rest with
    | '\x7d' :: rest =>
      let conversion :=
        if !shown.isEmpty && !hasSpec then conversion.or (some .literal) else conversion
      return (shown ++ [.fill f conversion spec], rest)
    | _ => none
termination_by structural fuel => fuel

/-- Reads a format; inside of another one there is nothing to fill in. -/
def readSpec : (fuel : Nat) → (isRaw isTop : Bool) → List Char → Option (List Piece × List Char)
  | 0, _, _, _ => none
  | n + 1, isRaw, isTop, cs =>
    if isTop then readPieces n isRaw false cs
    else do
      let (chunk, rest) := chunkAhead isRaw false [] cs
      let text ← bodyText? false isRaw chunk
      match rest with
      | '\x7b' :: _ => none
      | rest => return ([.text (String.ofList text)], rest)
termination_by structural fuel => fuel

/-- Reads a formula from its text. -/
def readWritten : (fuel : Nat) → List Char → Read
  | 0, _ => none
  | n + 1, cs => readStarred n (tokens cs)
termination_by structural fuel => fuel

end

/-! ## Rows -/

/-- Whether tokens begin behind a row of formulas. -/
def endsRow : List Token → Bool
  | [] | .sign ";" :: _ | .sign "=" :: _ | .line _ :: _ => true
  | _ => false

/-- Reads formulas between commas without brackets around them. -/
def readRow : (fuel : Nat) → List Token → Read
  | 0, _ => none
  | n + 1, ts => do
    let (f, ts) ← match ts with
      | .sign "*" :: ts => do
        let (f, ts) ← readBinary n 0 ts
        pure (.spread f, ts)
      | ts => readFormula n ts
    match ts with
    | .sign "," :: ts =>
      if endsRow ts then return (.tuple [f], ts)
      else do
        let (rest, ts) ← readRow n ts
        return (.tuple [f, rest], ts)
    | ts => return (f, ts)

end Formula

end SolidityWire
