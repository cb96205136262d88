/-
Decoding values under the shapes of a codec. Each shape reads from where the cursor is and gives
back the cursor behind the value.
-/
import SolidityWire.Codec.Choice

namespace SolidityWire

namespace Codec

open GeneratedType

/-- What decoding gives: a value and the cursor behind it, or a reason. -/
abbrev Decoded := Except CodecError (Value × Cursor)

/-- Reads with a decoder, whose reason becomes the codec's. -/
def read {α : Type} (d : Decoder α) (cur : Cursor) : Except CodecError (α × Cursor) :=
  match d cur with
  | (.ok a, cur') => .ok (a, cur')
  | (.error e, _) => .error (.decode e)

/-- Reads as many values as `count` says and puts them behind `done`, which is kept in reverse. -/
def decodeItems (decode : Cursor → Decoded) :
    (count : Nat) → (done : List Value) → Cursor → Except CodecError (List Value × Cursor)
  | 0, done, cur => .ok (done.reverse, cur)
  | count + 1, done, cur => do
    let (v, cur) ← decode cur
    decodeItems decode count (v :: done) cur

/-- Reads the fields of a record in order. -/
def decodeFields (c : Codec) (decode : Shape → Cursor → Decoded) :
    List (String × Shape) → Cursor → Except CodecError (List (String × Value) × Cursor)
  | [], cur => .ok ([], cur)
  | (name, child) :: rest, cur => do
    let f ← c.function child.key
    let (v, cur) ← decode f cur
    let (fields, cur) ← decodeFields c decode rest cur
    return ((fieldName name, v) :: fields, cur)

/-- Reads what the chosen variant carries, if anything, with the name of its field. -/
def decodePayload (c : Codec) (decode : Shape → Cursor → Decoded)
    (variants : List (String × Option String × Option Shape)) (choice : Nat) (cur : Cursor) :
    Except CodecError (List (String × Value) × Cursor) :=
  match variants[choice]? with
  | some (_, some field, some child) => decodeFields c decode [(field, child)] cur
  | _ => .ok ([], cur)

/-- A record of the type that is generated for a key, with the cursor behind it. -/
def decodedRecord (t : RecordType) (key : String) (given : List (String × Value)) (cur : Cursor) :
    Decoded :=
  (t.make key given).map (·, cur) |>.mapError .misuse

/-- The member of an enumeration with the ordinal, and the cursor behind it. -/
def decodedMember (c : Codec) (key : String) (names : List String) (ordinal : Nat) (cur : Cursor) :
    Decoded := do
  let t ← (EnumType.ofNames (Text.asciiName key) names).mapError .misuse
  match t.member? ordinal with
  | some name => return (.member key name ordinal, cur)
  | none => throw (noMember c.edition t (.decode (.notMember ordinal (Text.asciiName key))))

mutual

/-- Reads a value under a shape. The functions of other shapes are called by their keys, at most
`depth` of them inside one another; one that reads items counts twice. -/
def decodeShape (c : Codec) : (depth : Nat) → Shape → Cursor → Decoded
  | 0, _, _ => .error (.misuse .tooDeep)
  | depth + 1, s, cur =>
    match s with
    | .primitive p => read (Wire.decode p) cur
    | .reference _ => .error (.misuse .unknownName)
    | .option child => do
      let (present, cur) ← read Wire.decodeBool cur
      if present then
        let f ← c.function child.key
        let (v, cur) ← decodeShape c depth f cur
        if isBoxed s then
          return (.record s.key [("has_value", .boolean true), ("value", v)], cur)
        else return (v, cur)
      else if isBoxed s then
        return (.record s.key [("has_value", .boolean false), ("value", .null)], cur)
      else return (.null, cur)
    | .sequence child => do
      let (count, cur) ← read Length.decode cur
      let (items, cur) ← decodeItems (decodeItem c depth child) count [] cur
      return (.list items, cur)
    | .array child size => do
      let (items, cur) ← decodeItems (decodeItem c depth child) size.toNat [] cur
      decodedRecord arrayRecord s.key [("values", .list items)] cur
    | .struct key fields => do
      let (values, cur) ← decodeFields c (decodeShape c depth) fields cur
      decodedRecord (structRecord key fields) key values cur
    | .simpleEnum key names => do
      let (ordinal, cur) ← read (Integer.decode false 1) cur
      decodedMember c key names ordinal.toNat cur
    | .taggedEnum key variants => do
      let (choice, cur) ← read (Integer.decode false 8) cur
      if variants.length ≤ choice.toNat then throw (c.decodeRefusal key choice.toNat)
      else
        let (payload, cur) ← decodePayload c (decodeShape c depth) variants choice.toNat cur
        decodedRecord (taggedRecord key variants) key (("choice", .integer choice) :: payload) cur
termination_by structural depth => depth

/-- Reads an item under the shape of a key. -/
def decodeItem (c : Codec) : (depth : Nat) → Shape → Cursor → Decoded
  | 0, _, _ => .error (.misuse .tooDeep)
  | depth + 1, child, cur => do decodeShape c depth (← c.function child.key) cur
termination_by structural depth => depth

end

/-- Reads a value under a key of the table, from an offset of the bytes. -/
def decodeAt (c : Codec) (key : String) (offset : Int) (bytes : List UInt8) : Decoded := do
  let s ← c.entry key
  let cur ← (Cursor.at? offset bytes).mapError .decode
  decodeShape c c.depth s cur

/-- Reads a value under a key of the table, which has to use all of the bytes. -/
def decode (c : Codec) (key : String) (bytes : List UInt8) : Except CodecError Value := do
  let (v, cur) ← c.decodeAt key 0 bytes
  if cur.rest.isEmpty then return v
  else throw (.decode (.trailingBytes cur.rest.length key))

end Codec

end SolidityWire
