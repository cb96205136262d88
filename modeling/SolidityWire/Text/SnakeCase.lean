/-
Snake case: an underscore goes before a capital that begins a word and between a small letter or a
digit and the capital after it; then everything is put in lower case. Only ASCII letters make words.
-/
import SolidityWire.Text.Lowercase

namespace SolidityWire.Text

/-- Puts an underscore before each capital that small letters follow, unless it comes first, after a
line feed, or right after the word before it has claimed its last letter. -/
def splitWords (inWord : Bool) : List Char → List Char
  | c :: u :: l :: rest =>
    if inWord && c.isLower then c :: splitWords true (u :: l :: rest)
    else if c ≠ '\n' && u.isUpper && l.isLower then c :: '_' :: u :: l :: splitWords true rest
    else c :: splitWords false (u :: l :: rest)
  | cs => cs

/-- Puts an underscore between a small letter or digit and a capital. -/
def splitTails : List Char → List Char
  | c :: u :: rest =>
    if (c.isLower || c.isDigit) && u.isUpper then c :: '_' :: splitTails (u :: rest)
    else c :: splitTails (u :: rest)
  | cs => cs

/-- The name in snake case. -/
def snakeCase (name : String) : String :=
  lowercase (String.ofList (splitTails (splitWords false name.toList)))

end SolidityWire.Text
