/-
Byte strings in base 64: four characters of six bits for three bytes, equality signs in place of
what is missing at the end. Characters outside of the alphabet are passed over.
-/
import SolidityWire.Yaml.Fault

namespace SolidityWire.Yaml

/-- The six bits of a character. -/
def sixBits? (c : Char) : Option Nat :=
  if 'A' ≤ c ∧ c ≤ 'Z' then some (c.toNat - 65)
  else if 'a' ≤ c ∧ c ≤ 'z' then some (c.toNat - 71)
  else if c.isDigit then some (c.toNat + 4)
  else if c = '+' then some 62
  else if c = '/' then some 63
  else none

/-- The bytes of a text: `phase` characters of the group of four have been read, of which `left` are
the bits that make no byte yet, and `pads` signs came after them. -/
def base64? : (phase left pads : Nat) → List Char → Option (List UInt8)
  | phase, _, _, [] => if phase = 0 then some [] else none
  | phase, left, pads, c :: cs =>
    if c = '=' then
      if 2 ≤ phase ∧ 4 ≤ phase + pads + 1 then some []
      else base64? phase left (if 2 ≤ phase then pads + 1 else pads) cs
    else
      match sixBits? c with
      | none => base64? phase left pads cs
      | some v =>
        match phase with
        | 0 => base64? 1 v 0 cs
        | 1 => (base64? 2 (v % 16) 0 cs).map ((left * 4 + v / 16).toUInt8 :: ·)
        | 2 => (base64? 3 (v % 4) 0 cs).map ((left * 16 + v / 4).toUInt8 :: ·)
        | _ => (base64? 0 0 0 cs).map ((left * 64 + v).toUInt8 :: ·)

/-- The byte string that a scalar writes; only ASCII characters may occur. -/
def bytesOf (cs : List Char) : Except Fault (List UInt8) :=
  if cs.all fun c => c.toNat < 128 then
    match base64? 0 0 0 cs with
    | some bytes => .ok bytes
    | none => refuse .badBinary
  else refuse .badBinary

end SolidityWire.Yaml
