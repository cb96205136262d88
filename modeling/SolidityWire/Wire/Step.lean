/-
Steps of writing and reading: a value of a primitive type, or a length. A run of steps goes on after
one that fails: writing continues behind what the output has by then, and reading from where the cursor
was left.
-/
import SolidityWire.Wire.Output
import SolidityWire.Wire.Primitive

namespace SolidityWire.Wire

open Text (Utf8.encode Utf8.countCharacters)

/-- Writes a value of a primitive type. A text and a byte string go out in two parts, the length first. -/
def write (p : Primitive) (v : Value) : Encoder :=
  match p with
  | .unit => Encoder.done
  | .bool =>
    match v with
    | .boolean b => Encoder.bytes [if b then 1 else 0]
    | v => Encoder.refuse (.notBool v)
  | .integer signed width => Encoder.encoded (encodeInteger signed width v)
  | .char => Encoder.encoded (encodeChar v)
  | .string =>
    match v with
    | .text s =>
      let data := Utf8.encode s.toList
      (Encoder.bytes (Length.encode (Utf8.countCharacters data))).andThen (Encoder.bytes data)
    | .unpaired _ => Encoder.refuse (.noEncoding v)
    | v => Encoder.refuse (.notText v)
  | .bytes =>
    match v with
    | .bytes data | .byteArray data =>
      (Encoder.bytes (Length.encode data.length)).andThen (Encoder.bytes data)
    | .view items data =>
      (Encoder.bytes (Length.encode items.length)).andThen (Encoder.bytes data)
    | v => Encoder.refuse (.notBytes v)

/-- What one step writes or reads. -/
inductive Step where
  | primitive (p : Primitive)
  | length
  deriving DecidableEq, Inhabited, Repr

namespace Step

/-- The name of a step: the key of a primitive type, or `len`. -/
def name : Step → String
  | primitive p => p.key
  | length => "len"

/-- All steps. -/
def all : List Step :=
  length :: Primitive.all.map primitive

/-- The step of a name. -/
def ofName? (name : String) : Option Step :=
  all.find? (·.name == name)

/-- The bytes of a value. -/
def encode (s : Step) (v : Value) : Except EncodeError (List UInt8) :=
  match s with
  | primitive p => Wire.encode p v
  | length => Length.encodeValue v

/-- Reads a value. -/
def decode (s : Step) : Decoder Value :=
  match s with
  | primitive p => Wire.decode p
  | length => Length.decode.map fun (n : Nat) => .integer n

/-- Writes a value behind what was written before. -/
def write (s : Step) (v : Value) : Encoder :=
  match s with
  | primitive p => Wire.write p v
  | length => Encoder.encoded (Length.encodeValue v)

/-- Writes values one after the other; the output after each step is kept. -/
def writeAll (o : Output) : List (Step × Value) → List (Except EncodeError Unit × Output)
  | [] => []
  | (s, v) :: rest =>
    let r := s.write v o
    r :: writeAll r.2 rest

/-- Reads values one after the other; the cursor after each step is kept. -/
def readAll (c : Cursor) : List Step → List (Except DecodeError Value × Cursor)
  | [] => []
  | s :: rest =>
    let r := s.decode c
    r :: readAll r.2 rest

/-- Every step is listed. -/
theorem mem_all (s : Step) : s ∈ all := by
  cases s with
  | primitive p => simp [all, Primitive.mem_all]
  | length => simp [all]

/-- What is written of a value is what encoding gives, or nothing if encoding refuses it: no part of a value is
written before all of it is known to be good. -/
theorem write_eq (s : Step) (v : Value) : s.write v = Encoder.encoded (s.encode v) := by
  cases s with
  | length => rfl
  | primitive p =>
    cases p with
    | unit => exact Encoder.done_eq
    | bool => cases v <;> rfl
    | integer signed width => rfl
    | char => rfl
    | string =>
      cases v with
      | text s => exact Encoder.bytes_andThen _ _
      | _ => rfl
    | bytes =>
      cases v with
      | bytes _ | byteArray _ | view _ _ => exact Encoder.bytes_andThen _ _
      | _ => rfl

end Step

end SolidityWire.Wire
