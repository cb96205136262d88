/-
Halves of surrogate pairs that stand alone: codes from U+D800 to U+DFFF, which are no characters. A
text that has one holds in its place the private character that is `0x100000` above it, so that the
characters from U+10D800 to U+10DFFF stand for these halves and are not told apart from them.
-/

namespace SolidityWire.Text

/-- Whether the code is one half of a surrogate pair. -/
def isSurrogate (code : Nat) : Bool :=
  0xD800 ≤ code && code < 0xE000

/-- The character of a code; half of a pair gets its place holder. -/
def charOfCode (code : Nat) : Char :=
  Char.ofNat (if isSurrogate code then 0x100000 + code else code)

/-- Whether the character holds the place of half of a pair. -/
def isLoneHalf (c : Char) : Bool :=
  0x10D800 ≤ c.toNat && c.toNat < 0x10E000

/-- The code that a character is written by. -/
def codeOf (c : Char) : Nat :=
  if isLoneHalf c then c.toNat - 0x100000 else c.toNat

/-- Whether a text has half of a pair in it, so that it has no encoding. -/
def hasLoneHalf (s : String) : Bool :=
  s.toList.any isLoneHalf

end SolidityWire.Text
