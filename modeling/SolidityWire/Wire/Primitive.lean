/-
Values of the primitive types on the wire. Encoding gives all of a value's bytes or none; a string's
length counts its characters, that of bytes counts the bytes.
-/
import SolidityWire.Text.Utf8
import SolidityWire.Wire.Integer
import SolidityWire.Wire.Length

namespace SolidityWire

open Text (Utf8.encode Utf8.decode? Utf8.countCharacters Utf8.width)

namespace Wire

/-! ## Encoding -/

/-- The bytes of an integer of the given type; a boolean is no integer. -/
def encodeInteger (signed : Bool) (width : IntWidth) (v : Value) :
    Except EncodeError (List UInt8) :=
  match v with
  | .boolean _ => .error (.notInteger signed width v)
  | v =>
    match v.wholeNumber? with
    | none => .error (.notInteger signed width v)
    | some n =>
      if Integer.inRange signed width.bytes n then .ok (Integer.encode width.bytes n)
      else .error (.outOfRange signed width n)

/-- The byte of a char: a number below 256, one byte, or one character below U+0100. A view of one
byte is none of them. -/
def encodeChar (v : Value) : Except EncodeError (List UInt8) :=
  match v with
  | .bytes [b] | .byteArray [b] => .ok [b]
  | .bytes _ | .byteArray _ => .error .charNotOneByte
  | .text s =>
    match s.toList with
    | [c] => if c.toNat < 256 then .ok [c.toNat.toUInt8] else .error .charNotOneCharacter
    | _ => .error .charNotOneCharacter
  | .unpaired _ => .error .charNotOneCharacter
  | v =>
    match v.wholeNumber? with
    | none => .error (.notChar v)
    | some n => if 0 ≤ n ∧ n < 256 then .ok [n.toNat.toUInt8] else .error (.charOutOfRange n)

/-- The bytes of a text behind the number of its characters. -/
def encodeText (s : String) : List UInt8 :=
  let data := Utf8.encode s.toList
  Length.encode (Utf8.countCharacters data) ++ data

/-- The bytes of a byte string behind its length; a view counts its items instead of its bytes. -/
def encodeBytes (v : Value) : Except EncodeError (List UInt8) :=
  match v with
  | .bytes data | .byteArray data => .ok (Length.encode data.length ++ data)
  | .view items data => .ok (Length.encode items.length ++ data)
  | v => .error (.notBytes v)

/-- The bytes of a value of a primitive type. -/
def encode (p : Primitive) (v : Value) : Except EncodeError (List UInt8) :=
  match p with
  | .unit => .ok []
  | .bool =>
    match v with
    | .boolean b => .ok [if b then 1 else 0]
    | v => .error (.notBool v)
  | .integer signed width => encodeInteger signed width v
  | .char => encodeChar v
  | .string =>
    match v with
    | .text s => .ok (encodeText s)
    | .unpaired _ => .error (.noEncoding v)
    | v => .error (.notText v)
  | .bytes => encodeBytes v

/-! ## Decoding -/

/-- Reads a truth value; any other byte is consumed and refused. -/
def decodeBool : Decoder Bool :=
  fun c =>
    Decoder.byte.andThen
      (fun b =>
        if b > 1 then Decoder.refuse (.invalidBool b.toNat c.position) else Decoder.give (b == 1)) c

/-- The number of bytes of the next `n` characters, going by the width that the first byte of each
announces; `none` if the bytes end before the last of them begins. -/
def spanOf : (n : Nat) → List UInt8 → Option Nat
  | 0, _ => some 0
  | _ + 1, [] => none
  | n + 1, lead :: rest =>
    (spanOf n (rest.drop (Utf8.width lead - 1))).map (Utf8.width lead + ·)

/-- Reads the bytes of a text of the given number of characters. -/
def decodeCharacters (count : Nat) : Decoder String :=
  fun c =>
    match spanOf count c.rest with
    | none => (.error (.stringPastEnd count), c)
    | some size =>
      (Decoder.bytes size).andThen
        (fun data =>
          match Utf8.decode? data with
          | some cs => Decoder.give (String.ofList cs)
          | none => Decoder.refuse (.invalidUtf8 data)) c

/-- Reads a value of a primitive type. -/
def decode (p : Primitive) : Decoder Value :=
  match p with
  | .unit => Decoder.give .null
  | .bool => decodeBool.map .boolean
  | .integer signed width => (Integer.decode signed width.bytes).map .integer
  | .char => Decoder.byte.map fun b => .text (String.singleton (Char.ofNat b.toNat))
  | .string => (Length.decode.andThen decodeCharacters).map .text
  | .bytes => (Length.decode.andThen Decoder.bytes).map .bytes

end Wire

end SolidityWire
