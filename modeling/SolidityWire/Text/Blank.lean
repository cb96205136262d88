/-
Blank characters over all of Unicode, those that separate words and show nothing themselves; and the
words that they separate.
-/
import SolidityWire.Text.Ranges

namespace SolidityWire.Text

/-- Bounds of the ranges of blank characters. -/
def blankBounds : Array Nat := #[
  9, 14, 28, 33, 133, 134, 160, 161, 5760, 5761, 8192, 8203, 8232, 8234, 8239, 8240, 8287, 8288,
  12288, 12289]

/-- Whether the character is blank. -/
def isBlank (c : Char) : Bool :=
  inRanges blankBounds c

/-! ## Words -/

/-- The words of a text, after one whose characters so far are given in reverse. -/
def wordsFrom : (word : List Char) → List Char → List String
  | [], [] => []
  | word, [] => [String.ofList word.reverse]
  | word, c :: cs =>
    if isBlank c then
      if word.isEmpty then wordsFrom [] cs else String.ofList word.reverse :: wordsFrom [] cs
    else wordsFrom (c :: word) cs

/-- The words of a text: what blanks separate. -/
def words (s : String) : List String :=
  wordsFrom [] s.toList

/-- The characters without blanks at either end. -/
def trimBlanks (cs : List Char) : List Char :=
  ((cs.dropWhile isBlank).reverse.dropWhile isBlank).reverse

end SolidityWire.Text
