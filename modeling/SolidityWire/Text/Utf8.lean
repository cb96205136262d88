/-
UTF-8 on lists of bytes. The decoder is strict: no overlong form, no surrogate, nothing beyond the
last code point. A byte that does not continue a character begins one, so characters can be counted
without decoding.
-/
import SolidityWire.Text.Hex

namespace SolidityWire.Text.Utf8

/-! ## Encoding -/

/-- The bytes of a character. -/
def encodeChar (c : Char) : List UInt8 :=
  let n := c.toNat
  if n < 0x80 then [n.toUInt8]
  else if n < 0x800 then [(0xC0 + n / 64).toUInt8, (0x80 + n % 64).toUInt8]
  else if n < 0x10000 then
    [(0xE0 + n / 4096).toUInt8, (0x80 + n / 64 % 64).toUInt8, (0x80 + n % 64).toUInt8]
  else
    [(0xF0 + n / 262144).toUInt8, (0x80 + n / 4096 % 64).toUInt8, (0x80 + n / 64 % 64).toUInt8,
      (0x80 + n % 64).toUInt8]

/-- The bytes of a list of characters. -/
def encode (cs : List Char) : List UInt8 :=
  cs.flatMap encodeChar

/-! ## Decoding -/

/-- Whether the byte continues a character. -/
def isContinuation (b : UInt8) : Bool :=
  0x80 ≤ b && b < 0xC0

/-- The six bits that a continuation byte carries. -/
def payload (b : UInt8) : Nat :=
  b.toNat - 0x80

/-- Whether the number is a scalar value that needs at least `least`. -/
def isScalarFrom (least n : Nat) : Bool :=
  least ≤ n && (n < 0xD800 || (0xE000 ≤ n && n < 0x110000))

/-- The characters that the bytes encode, if they encode any. -/
def decode? : List UInt8 → Option (List Char)
  | [] => some []
  | a :: rest =>
    if a < 0x80 then (decode? rest).map (Char.ofNat a.toNat :: ·)
    else
      match rest with
      | [] => none
      | b :: rest =>
        -- Below `0xC2` are the continuing bytes, and two that begin overlong forms only.
        if a < 0xC2 || !isContinuation b then none
        else if a < 0xE0 then
          (decode? rest).map (Char.ofNat ((a.toNat - 0xC0) * 64 + payload b) :: ·)
        else
          match rest with
          | [] => none
          | c :: rest =>
            if !isContinuation c then none
            else if a < 0xF0 then
              let n := (a.toNat - 0xE0) * 4096 + payload b * 64 + payload c
              if isScalarFrom 0x800 n then (decode? rest).map (Char.ofNat n :: ·) else none
            else
              match rest with
              | [] => none
              | d :: rest =>
                let n := (a.toNat - 0xF0) * 262144 + payload b * 4096 + payload c * 64 + payload d
                -- Bytes of five ones and more begin no character.
                if a < 0xF8 && isContinuation d && isScalarFrom 0x10000 n then
                  (decode? rest).map (Char.ofNat n :: ·)
                else none

/-! ## What is wrong with bytes -/

/-- Bytes that begin like a character and are none: their places, the first of them, and why. -/
structure Fault where
  first : Nat
  last : Nat
  lead : UInt8
  reason : String
  deriving DecidableEq, Inhabited, Repr

/-- Whether the second byte can stand behind the first one of a character. -/
def mayFollow (a b : UInt8) : Bool :=
  -- The least and the greatest characters of a width leave out a part of the continuing bytes.
  if a = 0xE0 then 0xA0 ≤ b && b < 0xC0
  else if a = 0xED then 0x80 ≤ b && b < 0xA0
  else if a = 0xF0 then 0x90 ≤ b && b < 0xC0
  else if a = 0xF4 then 0x80 ≤ b && b < 0x90
  else isContinuation b

/-- The first bytes that are no character, if there are any; the bytes begin at a place. -/
def fault? (place : Nat) : List UInt8 → Option Fault
  | [] => none
  | a :: rest =>
    let ended (last : Nat) := some ⟨place, last, a, "unexpected end of data"⟩
    let broken (last : Nat) := some ⟨place, last, a, "invalid continuation byte"⟩
    if a < 0x80 then fault? (place + 1) rest
    else if a < 0xC2 || 0xF5 ≤ a then some ⟨place, place, a, "invalid start byte"⟩
    else
      match rest with
      | [] => ended place
      | b :: rest =>
        if !mayFollow a b then broken place
        else if a < 0xE0 then fault? (place + 2) rest
        else
          match rest with
          | [] => ended (place + 1)
          | c :: rest =>
            if !isContinuation c then broken (place + 1)
            else if a < 0xF0 then fault? (place + 3) rest
            else
              match rest with
              | [] => ended (place + 2)
              | d :: rest =>
                if !isContinuation d then broken (place + 2) else fault? (place + 4) rest

/-- The words for a fault: one byte is told by its number, more by where they are. -/
def Fault.message (f : Fault) : String :=
  let bytes :=
    if f.first = f.last then
      "byte 0x" ++ String.ofList [hexDigit (f.lead.toNat / 16), hexDigit (f.lead.toNat % 16)] ++
        " in position " ++ toString f.first
    else "bytes in position " ++ toString f.first ++ "-" ++ toString f.last
  "'utf-8' codec can't decode " ++ bytes ++ ": " ++ f.reason

/-! ## Counting and stepping without decoding -/

/-- The number of bytes that begin a character. -/
def countCharacters (bytes : List UInt8) : Nat :=
  bytes.countP (!isContinuation ·)

/-- The number of bytes that the first byte of a character announces. -/
def width (lead : UInt8) : Nat :=
  if lead < 0x80 then 1 else if lead < 0xE0 then 2 else if lead < 0xF0 then 3 else 4

end SolidityWire.Text.Utf8
