/-
The functions of the primitive types and of lengths.
-/
import SolidityWire.Schema.Primitive
import SolidityWire.Solidity.Syntax

namespace SolidityWire.Solidity

/-! ## Common parts -/

/-- A type whose values live on the stack. -/
def onStack (type : String) : Place := ⟨type, .stack⟩

/-- A type whose values live in memory. -/
def inMemory (type : String) : Place := ⟨type, .memory⟩

/-- A local variable without a value. -/
def declare (place : Place) (name : String) : Statement :=
  .declare ⟨place, name⟩ none

/-- A local variable with a value. -/
def define (place : Place) (name value : String) : Statement :=
  .declare ⟨place, name⟩ (some value)

/-- The statement that leaves a function. -/
def give (value : String) : Statement :=
  .run ("return " ++ value)

/-- A block with one head. -/
def under (head : String) (body : List Statement) : Statement :=
  .block [(head, body)]

/-- A condition on the input, with the reason for refusing it. -/
def require (condition reason : String) : Statement :=
  .run ("require(" ++ condition ++ ", \"" ++ reason ++ "\")")

/-- The loop with a counter `i` below a bound. -/
def repeatBelow (bound : String) (body : List Statement) : Statement :=
  under ("for (uint256 i = 0; i < " ++ bound ++ "; i++)") body

/-- The attributes of a library's functions. -/
def internalPure : String := "internal pure"

/-- The parameter that holds bytes to decode. -/
def inputBytes : Variable := ⟨inMemory "bytes", "input"⟩

/-- The parameters of a decoder that starts at a position. -/
def decoderParameters : List Variable :=
  [⟨onStack "uint256", "pos"⟩, inputBytes]

/-- The encoder of a type. -/
def encoder (key : String) (place : Place) (body : List Statement) : Declaration :=
  .function ⟨"encode_" ++ key, [⟨place, "input"⟩], internalPure, [inMemory "bytes"], body⟩

/-- The decoder of a type at a position; it gives back the position after the value. -/
def decoderAt (key : String) (place : Place) (body : List Statement) : Declaration :=
  .function ⟨"decode_at_" ++ key, decoderParameters, internalPure, [onStack "uint256", place], body⟩

/-- The decoder of a type that has to use all of the input. -/
def wholeDecoder (key : String) (place : Place) : Declaration :=
  .function ⟨"decode_" ++ key, [inputBytes], internalPure, [place], [
    declare (onStack "uint256") "new_pos",
    declare place "value",
    .run ("(new_pos, value) = decode_at_" ++ key ++ "(0, input)"),
    require "new_pos == input.length" "incomplete deserialization",
    give "value"]⟩

/-! ## Lengths -/

/-- Writes a length in groups of seven bits, the least significant group first. -/
def encodeLength : Function :=
  ⟨"encode_len", [⟨onStack "uint256", "x"⟩], "pure", [inMemory "bytes"], [
    declare (inMemory "bytes") "result",
    under "while (x >= 128)" [
      .run "result = abi.encodePacked(result, bytes1(uint8(x & 0x7f) | 0x80))",
      .run "x >>= 7"],
    give "abi.encodePacked(result, bytes1(uint8(x)))"]⟩

/-- Reads a length of at most 64 bits that has no group too many. -/
def decodeLength : Function :=
  ⟨"decode_at_len", decoderParameters, "pure", [onStack "uint256", onStack "uint256"], [
    define (onStack "uint256") "result" "0",
    define (onStack "uint256") "shift" "0",
    under "while (true)" [
      require "pos < input.length" "input too short",
      require "shift < 64" "length overflow",
      define (onStack "uint8") "next_byte" "uint8(input[pos])",
      require "shift < 63 || next_byte < 2" "length overflow",
      .run "pos += 1",
      .run "result |= uint256(next_byte & 0x7f) << shift",
      under "if (next_byte < 128)" [
        require "next_byte != 0 || shift == 0" "non-canonical length",
        .run "break"],
      .run "shift += 7"],
    give "(pos, result)"]⟩

/-! ## Primitive types -/

/-- The body that copies a span of the input. -/
def copySpan (size start : String) : List Statement :=
  [define (inMemory "bytes") "result" ("new bytes(" ++ size ++ ")"),
    repeatBelow size [.run ("result[i] = input[" ++ start ++ " + i]")]]

/-- The statements that read a length prefix. -/
def readLength : List Statement :=
  [declare (onStack "uint256") "new_pos", declare (onStack "uint256") "len",
    .run "(new_pos, len) = decode_at_len(pos, input)"]

/-- The functions of an integer type: little-endian, through the unsigned type of the width. -/
def integerDeclarations (p : Primitive) (width : IntWidth) : List Declaration :=
  let size := toString width.bytes
  let unsigned := p.unsignedKey
  [encoder p.key (onStack p.key) [
      define (inMemory "bytes") "result" ("new bytes(" ++ size ++ ")"),
      define (onStack unsigned) "value" (unsigned ++ "(input)"),
      repeatBelow size [
        .run "result[i] = bytes1(uint8(value & 0xff))",
        .run "value >>= 8"],
      give "result"],
    decoderAt p.key (onStack p.key) [
      require ("pos + " ++ size ++ " <= input.length") "input too short",
      define (onStack unsigned) "value" "0",
      repeatBelow size [
        .run ("value |= " ++ unsigned ++ "(uint8(input[pos + i])) << (8 * i)")],
      give ("(pos + " ++ size ++ ", " ++ p.key ++ "(value))")]]

/-- The functions of the unit type, which is a struct without information. -/
def unitDeclarations : List Declaration :=
  [.struct "empty_struct" [("int8", "val")],
    encoder "empty_struct" (inMemory "empty_struct") [
      declare (inMemory "bytes") "result",
      give "result"],
    decoderAt "empty_struct" (inMemory "empty_struct") [
      give "(pos, empty_struct(0))"]]

/-- The functions of the truth values. -/
def boolDeclarations : List Declaration :=
  [encoder "bool" (onStack "bool") [give "abi.encodePacked(input)"],
    decoderAt "bool" (onStack "bool") [
      require "pos < input.length" "input too short",
      define (onStack "uint8") "value" "uint8(input[pos])",
      require "value < 2" "invalid bool",
      give "(pos + 1, value == 1)"]]

/-- The functions of single bytes. -/
def charDeclarations : List Declaration :=
  [encoder "bytes1" (onStack "bytes1") [give "abi.encodePacked(input)"],
    decoderAt "bytes1" (onStack "bytes1") [
      require "pos < input.length" "input too short",
      give "(pos + 1, input[pos])"]]

/-- The functions of strings: the prefix counts characters, so the encoder counts the bytes that
begin one and the decoder steps by the width that the first byte of each announces. -/
def stringDeclarations : List Declaration :=
  [encoder "string" (inMemory "string") [
      define (inMemory "bytes") "input_bytes" "bytes(input)",
      define (onStack "uint256") "number_char" "0",
      repeatBelow "input_bytes.length" [
        under "if ((uint8(input_bytes[i]) & 0xc0) != 0x80)" [.run "number_char += 1"]],
      give "abi.encodePacked(encode_len(number_char), input_bytes)"],
    decoderAt "string" (inMemory "string") (readLength ++ [
      define (onStack "uint256") "end" "new_pos",
      repeatBelow "len" [
        require "end < input.length" "input too short",
        define (onStack "uint8") "lead" "uint8(input[end])",
        .block [
          ("if (lead < 0x80)", [.run "end += 1"]),
          ("else if (lead < 0xe0)", [.run "end += 2"]),
          ("else if (lead < 0xf0)", [.run "end += 3"]),
          ("else", [.run "end += 4"])]],
      require "end <= input.length" "input too short"] ++
      copySpan "end - new_pos" "new_pos" ++ [
      give "(end, string(result))"])]

/-- The functions of byte strings. -/
def bytesDeclarations : List Declaration :=
  [encoder "bytes" (inMemory "bytes") [
      give "abi.encodePacked(encode_len(input.length), input)"],
    decoderAt "bytes" (inMemory "bytes") (readLength ++ [
      require "new_pos + len <= input.length" "input too short"] ++
      copySpan "len" "new_pos" ++ [
      give "(new_pos + len, result)"])]

/-- The declarations of a primitive type, the decoder of whole inputs aside. -/
def primitiveDeclarations : Primitive → List Declaration
  | .unit => unitDeclarations
  | .bool => boolDeclarations
  | p@(.integer _ width) => integerDeclarations p width
  | .char => charDeclarations
  | .string => stringDeclarations
  | .bytes => bytesDeclarations

end SolidityWire.Solidity
