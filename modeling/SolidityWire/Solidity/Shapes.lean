/-
The declarations of a shape: its type, and the functions that encode it, decode it at a position and
decode a whole input.
-/
import SolidityWire.Error
import SolidityWire.Shape.Table
import SolidityWire.Solidity.Primitives
import SolidityWire.Solidity.Reserved

namespace SolidityWire.Solidity

/-! ## Names and places -/

/-- The names that every decoder uses for itself. -/
def decoderNames : List String :=
  ["pos", "new_pos", "input", "choice", "result"]

/-- The local variable for a field: types are constructors too, so neither a decoder's own names nor
keys of the table are taken. -/
def localName (t : Table) (field : String) : String :=
  if decoderNames.contains field || t.contains field then field ++ "_" else field

/-- Where values of a shape live. -/
def placeOf (t : Table) (s : Shape) : Except Error Place :=
  match t.needsMemory? s with
  | some true => .ok (inMemory s.typeName)
  | some false => .ok (onStack s.typeName)
  | none => .error (.unresolved s.key)

/-- The call of a shape's decoder from the position that a decoder has reached. -/
def decodeCall (target : String) (s : Shape) : Statement :=
  .run ("(new_pos, " ++ target ++ ") = decode_at_" ++ s.key ++ "(new_pos, input)")

/-- The call of a shape's encoder. -/
def encodeCall (s : Shape) (value : String) : String :=
  "encode_" ++ s.key ++ "(" ++ value ++ ")"

/-- The statement that puts the encoding of a value behind the result. -/
def appendEncoded (s : Shape) (value : String) : Statement :=
  .run ("result = abi.encodePacked(result, " ++ encodeCall s value ++ ")")

/-- The start of a decoder that makes calls; it need not have read anything yet. -/
def newPosition : Statement :=
  declare (onStack "uint256") "new_pos"

/-- The start of a decoder whose first call is at its own position. -/
def samePosition : Statement :=
  define (onStack "uint256") "new_pos" "pos"

/-! ## Options, sequences and arrays -/

/-- The declarations of an option: a struct of a flag and a value. -/
def optionDeclarations (t : Table) (key : String) (value : Shape) :
    Except Error (List Declaration) := do
  let place ← placeOf t value
  return [
    .struct key [("bool", "has_value"), (value.typeName, "value")],
    encoder key (inMemory key) [
      define (inMemory "bytes") "result" "encode_bool(input.has_value)",
      under "if (input.has_value)" [appendEncoded value "input.value"],
      give "result"],
    decoderAt key (inMemory key) [
      newPosition,
      declare (onStack "bool") "has_value",
      .run "(new_pos, has_value) = decode_at_bool(pos, input)",
      declare place "value",
      under "if (has_value)" [decodeCall "value" value],
      give ("(new_pos, " ++ key ++ "(has_value, value))")]]

/-- The functions of a sequence: a length and the elements. -/
def sequenceDeclarations (t : Table) (key typeName : String) (element : Shape) :
    Except Error (List Declaration) := do
  let place ← placeOf t element
  return [
    encoder key (inMemory typeName) [
      define (onStack "uint256") "len" "input.length",
      define (inMemory "bytes") "result" "encode_len(len)",
      repeatBelow "len" [appendEncoded element "input[i]"],
      give "result"],
    decoderAt key (inMemory typeName) [
      newPosition,
      declare (onStack "uint256") "len",
      .run "(new_pos, len) = decode_at_len(pos, input)",
      define (inMemory typeName) "result" ("new " ++ typeName ++ "(len)"),
      declare place "value",
      repeatBelow "len" [
        decodeCall "value" element,
        .run "result[i] = value"],
      give "(new_pos, result)"]]

/-- The declarations of an array of fixed size: a struct of its elements, written without length. -/
def arrayDeclarations (t : Table) (key : String) (element : Shape) (size : Int) :
    Except Error (List Declaration) := do
  let place ← placeOf t element
  let count := toString size
  let many := element.typeName ++ "[]"
  return [
    .struct key [(many, "values")],
    encoder key (inMemory key) [
      require ("input.values.length == " ++ count) "wrong array length",
      declare (inMemory "bytes") "result",
      repeatBelow count [appendEncoded element "input.values[i]"],
      give "result"],
    decoderAt key (inMemory key) [
      samePosition,
      define (inMemory many) "values" ("new " ++ many ++ "(" ++ count ++ ")"),
      declare place "value",
      repeatBelow count [
        decodeCall "value" element,
        .run "values[i] = value"],
      give ("(new_pos, " ++ key ++ "(values))")]]

/-! ## Structs and enumerations -/

/-- The statements that decode the fields of a struct, each into its local variable. -/
def decodeFields (t : Table) : List (String × Shape) → Except Error (List Statement)
  | [] => .ok []
  | (name, s) :: rest => do
    let place ← placeOf t s
    let statements ← decodeFields t rest
    return declare place (localName t name) :: decodeCall (localName t name) s :: statements

/-- The declarations of a struct: its fields one after the other. -/
def structDeclarations (t : Table) (key : String) :
    List (String × Shape) → Except Error (List Declaration)
  | [] => .error (.unwritable .emptyStruct)
  | fields@((first, firstShape) :: rest) => do
    let decoded ← decodeFields t fields
    return [
      .struct key (fields.map fun (name, s) => (s.typeName, name)),
      encoder key (inMemory key)
        (define (inMemory "bytes") "result" (encodeCall firstShape ("input." ++ first)) ::
          rest.map (fun (name, s) => appendEncoded s ("input." ++ name)) ++
          [give "result"]),
      decoderAt key (inMemory key)
        (samePosition :: decoded ++
          [give ("(new_pos, " ++ key ++ "(" ++
            commaSeparated (fields.map fun (name, _) => localName t name) ++ "))")])]

/-- The declarations of an enumeration whose variants carry nothing: one byte. -/
def simpleEnumDeclarations (key : String) (members : List String) : List Declaration :=
  [.enum key (members.map safeName),
    encoder key (onStack key) [give "abi.encodePacked(input)"],
    decoderAt key (onStack key) [
      require "pos < input.length" "input too short",
      give ("(pos + 1, " ++ key ++ "(uint8(input[pos])))")]]

/-- The payloads of the variants with the numbers of their variants, counted from `start`. -/
def numberedPayloads (start : Nat) :
    List (String × Option String × Option Shape) → List (Nat × Option String × Shape)
  | [] => []
  | (_, _, none) :: rest => numberedPayloads (start + 1) rest
  | (_, field, some s) :: rest => (start, field, s) :: numberedPayloads (start + 1) rest

/-- The payloads with their fields. One without a field would be named as nothing where it is declared,
but it cannot stand among the arguments of the constructor, which are put together when all payloads
have a place. -/
def fieldPayloads (t : Table) :
    List (Nat × Option String × Shape) → Except Error (List (Nat × String × Shape))
  | [] => .ok []
  | (i, field, s) :: rest => do
    let _ ← placeOf t s
    let payloads ← fieldPayloads t rest
    match field with
    | some field => return (i, field, s) :: payloads
    | none => throw (.unwritable .payloadWithoutField)

/-- The statements that decode the payload of the chosen variant. -/
def decodePayloads (t : Table) : List (Nat × String × Shape) → Except Error (List Statement)
  | [] => .ok []
  | (i, field, s) :: rest => do
    let place ← placeOf t s
    let statements ← decodePayloads t rest
    return declare place (localName t field) ::
      under ("if (choice == " ++ toString i ++ ")") [decodeCall (localName t field) s] :: statements

/-- The declarations of an enumeration with payloads: a choice of 64 bits, then the payload. -/
def taggedEnumDeclarations (t : Table) (key : String)
    (variants : List (String × Option String × Option Shape)) :
    Except Error (List Declaration) := do
  let payloads ← fieldPayloads t (numberedPayloads 0 variants)
  let count := toString variants.length
  let decoded ← decodePayloads t payloads
  return [
    .struct key (("uint64", "choice") :: payloads.map fun (_, field, s) => (s.typeName, field)),
    encoder key (inMemory key)
      (require ("input.choice < " ++ count) "invalid enum choice" ::
        define (inMemory "bytes") "result" "encode_uint64(input.choice)" ::
        payloads.map (fun (i, field, s) =>
          under ("if (input.choice == " ++ toString i ++ ")")
            [give ("abi.encodePacked(result, " ++ encodeCall s ("input." ++ field) ++ ")")]) ++
        [give "result"]),
    decoderAt key (inMemory key)
      (newPosition :: declare (onStack "uint64") "choice" ::
        .run "(new_pos, choice) = decode_at_uint64(pos, input)" ::
        require ("choice < " ++ count) "invalid enum choice" :: decoded ++
        [give ("(new_pos, " ++ key ++ "(" ++
          commaSeparated ("choice" :: payloads.map fun (_, field, _) => localName t field) ++
          "))")])]

/-! ## All shapes -/

/-- The declarations of a shape's type, its encoder and its decoder at a position. -/
def mainDeclarations (t : Table) (s : Shape) : Except Error (List Declaration) :=
  match s with
  | .primitive p => .ok (primitiveDeclarations p)
  | .reference _ => .error (.unwritable .reference)
  | .option value => optionDeclarations t s.key value
  | .sequence element => sequenceDeclarations t s.key s.typeName element
  | .array element size => arrayDeclarations t s.key element size
  | .struct name fields => structDeclarations t name fields
  | .simpleEnum name members => .ok (simpleEnumDeclarations name members)
  | .taggedEnum name variants => taggedEnumDeclarations t name variants

/-- The declarations of a shape. -/
def declarations (t : Table) (s : Shape) : Except Error (List Declaration) := do
  let main ← mainDeclarations t s
  let place ← placeOf t s
  return main ++ [wholeDecoder s.key place]

end SolidityWire.Solidity
