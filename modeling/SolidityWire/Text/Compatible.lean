/-
The compatible form of a text: characters are decomposed into what they are compatible with, marks
are put in order, and what composes is composed again. Names that look alike have one such form.
-/
import SolidityWire.Text.Blank
import SolidityWire.Text.Compatible.Table
import SolidityWire.Text.Hex

namespace SolidityWire.Text

namespace Compatible

/-! ## Tables -/

/-- The number that hexadecimal digits write. -/
def codeOfHex (digits : List Char) : Nat :=
  ((hexNumber? digits.length 0 digits).map Prod.fst).getD 0

/-- The characters of a sum of codes. -/
def charsOfHex (codes : List Char) : List Char :=
  (codes.splitOn '+').map fun digits => Char.ofNat (codeOfHex digits)

/-- A run of characters and what the first of them decomposes to, from a word of the table. -/
def decompositionOfWord? (word : String) : Option (Nat × Nat × List Char) :=
  match word.toList.splitOn '=' with
  | [source, target] =>
    match source.splitOn '-' with
    | [first, last] => some (codeOfHex first, codeOfHex last, charsOfHex target)
    | _ => some (codeOfHex source, codeOfHex source, charsOfHex target)
  | _ => none

/-- Runs of characters with the decomposition of the first of each. -/
def decompositions : List (Nat × Nat × List Char) :=
  (words decompositionTable).filterMap decompositionOfWord?

/-- Two characters and the one that they compose to, from a word of the table. -/
def compositionOfWord? (word : String) : Option (List Char × Char) :=
  match word.toList.splitOn '=' with
  | [pair, composed] => some (charsOfHex pair, Char.ofNat (codeOfHex composed))
  | _ => none

/-- Pairs of characters with what they compose to. -/
def compositions : List (List Char × Char) :=
  (words compositionTable).filterMap compositionOfWord?

/-- The class of a mark; zero for a character that begins anew. -/
def markClass (c : Char) : Nat :=
  match classRuns.find? fun (first, last, _) => first ≤ c.toNat && c.toNat ≤ last with
  | some (_, _, number) => number
  | none => 0

/-! ## Syllables of Korean -/

/-- The letters of a syllable. -/
def syllableLetters (c : Char) : List Char :=
  let n := c.toNat - 0xAC00
  let front := [Char.ofNat (0x1100 + n / 588), Char.ofNat (0x1161 + n % 588 / 28)]
  if n % 28 = 0 then front else front ++ [Char.ofNat (0x11A7 + n % 28)]

/-- Whether the character is a syllable. -/
def isSyllable (c : Char) : Bool :=
  0xAC00 ≤ c.toNat && c.toNat < 0xD7A4

/-- The syllable of two letters, or of a syllable without a last letter and one. -/
def syllable? (a b : Char) : Option Char :=
  if 0x1100 ≤ a.toNat ∧ a.toNat < 0x1113 ∧ 0x1161 ≤ b.toNat ∧ b.toNat < 0x1176 then
    some (Char.ofNat (0xAC00 + (a.toNat - 0x1100) * 588 + (b.toNat - 0x1161) * 28))
  else if isSyllable a ∧ (a.toNat - 0xAC00) % 28 = 0 ∧ 0x11A7 < b.toNat ∧ b.toNat < 0x11C3 then
    some (Char.ofNat (a.toNat + (b.toNat - 0x11A7)))
  else none

/-! ## Steps -/

/-- What a character decomposes to. -/
def decompose (c : Char) : List Char :=
  if c.toNat < 128 then [c]
  else if isSyllable c then syllableLetters c
  else
    match decompositions.find? fun (first, last, _) => first ≤ c.toNat && c.toNat ≤ last with
    | some (first, _, [d]) => [Char.ofNat (d.toNat + (c.toNat - first))]
    | some (_, _, ds) => ds
    | none => [c]

/-- Puts a character in front of ordered ones: a mark goes behind the marks of lower classes. -/
def insertMark (c : Char) : List Char → List Char
  | [] => [c]
  | d :: ds =>
    if markClass d ≠ 0 ∧ markClass d < markClass c then d :: insertMark c ds else c :: d :: ds

/-- What two characters compose to. -/
def compose? (a b : Char) : Option Char :=
  match syllable? a b with
  | some c => some c
  | none => compositions.lookup [a, b]

/-- Composes what follows a character and the marks behind it that do not compose, which are kept
in reverse. -/
def composeFrom (first : Char) (kept : List Char) : List Char → List Char
  | [] => first :: kept.reverse
  | c :: cs =>
    let free := match kept with
      | [] => true
      | mark :: _ => decide (markClass mark < markClass c)
    match if free then compose? first c else none with
    | some composed => composeFrom composed kept cs
    | none =>
      if markClass c = 0 then first :: kept.reverse ++ composeFrom c [] cs
      else composeFrom first (c :: kept) cs

/-- Composes what can be composed; marks at the front stay. -/
def composeAll : List Char → List Char
  | [] => []
  | c :: cs => if markClass c = 0 then composeFrom c [] cs else c :: composeAll cs

end Compatible

/-- The compatible form of a text. -/
def compatible (s : String) : String :=
  if s.toList.all (·.toNat < 128) then s
  else
    String.ofList (Compatible.composeAll
      ((s.toList.flatMap Compatible.decompose).foldr Compatible.insertMark []))

end SolidityWire.Text
