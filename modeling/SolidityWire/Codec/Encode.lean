/-
Encoding values under the shapes of a codec. Values are taken apart by field and item, in the order
in which they are written.
-/
import SolidityWire.Codec.Choice

namespace SolidityWire

namespace Codec

/-- What encoding gives: bytes or a reason. -/
abbrev Encoded := Except CodecError (List UInt8)

/-- Whether the value is a member of an enumeration that has a name for itself. -/
def renames (c : Codec) (v : Value) (name : String) : Bool :=
  match v with
  | .member key _ _ => ((c.enumOf? key).bind (·.named? name)).isSome
  | _ => false

/-- The bytes of a value of a primitive type. The widest integers are written by an operation of
the number, which the names of an enumeration can hide. -/
def encodePrimitive (c : Codec) (p : Primitive) (v : Value) : Encoded :=
  match p with
  | .integer _ .w128 =>
    if c.renames v "to_bytes" then .error (.misuse .wrongType)
    else (Wire.encode p v).mapError .ofEncode
  | p => (Wire.encode p v).mapError .ofEncode

/-- The items of a value, or the reason that there are none. -/
def getItems (v : Value) : Except CodecError (List Value) :=
  match v.items? with
  | some items => .ok items
  | none => .error (.misuse .wrongType)

/-- The bytes of several values, one after the other. -/
def encodeItems (encode : Value → Encoded) : List Value → Encoded
  | [] => .ok []
  | v :: vs => do
    let front ← encode v
    return front ++ (← encodeItems encode vs)

/-- The bytes of the fields of a record; each function is looked up before its field is. -/
def encodeFields (c : Codec) (encode : Shape → Value → Encoded) (v : Value) :
    List (String × Shape) → Encoded
  | [] => .ok []
  | (name, child) :: rest => do
    let f ← c.function child.key
    let front ← encode f (← getField c v (fieldName name))
    return front ++ (← encodeFields c encode v rest)

/-- Refuses a choice that is not the number of one of `count` variants. -/
def checkChoice (c : Codec) (key : String) (count : Nat) (v choice : Value) :
    Except CodecError Unit :=
  match choice.compareWhole? 0, choice.compareWhole? count with
  | some lower, some upper =>
    if (lower = some .eq ∨ lower = some .gt) ∧ upper = some .lt then .ok ()
    else .error (c.encodeRefusal key v choice)
  | _, _ => .error (.misuse .wrongType)

/-- The bytes of a member of an enumeration: its ordinal in one byte, unless the type has a name in
the place of the function that tells it. -/
def encodeMember (c : Codec) (key : String) (names : List String) (v : Value) : Encoded := do
  let t ← (EnumType.ofNames (Text.asciiName key) names).mapError .misuse
  match ← findMember key t v with
  | some (.member _ _ ordinal) =>
    if t.hasAttribute "__int__" then throw (.misuse .wrongType)
    encodePrimitive c (.integer false .w8) (.integer ordinal)
  | _ => throw (noMember c.edition t (.ofEncode (.notMember v (Text.asciiName key))))

/-- The bytes of the payload of the chosen variant. -/
def encodePayload (c : Codec) (encode : Shape → Value → Encoded) (v : Value)
    (variants : List (String × Option String × Option Shape)) (choice : Value) : Encoded :=
  match choice.wholeNumber?.bind fun n => variants[n.toNat]? with
  | some (_, some field, some child) => encodeFields c encode v [(field, child)]
  | _ => .ok []

/-- The bytes of a value under a shape. The functions of other shapes are called by their keys, at
most `depth` of them inside one another. -/
def encodeShape (c : Codec) : (depth : Nat) → Shape → Value → Encoded
  | 0, _, _ => .error (.misuse .tooDeep)
  | depth + 1, s, v =>
    match s with
    | .primitive p => encodePrimitive c p v
    | .reference _ => .error (.misuse .unknownName)
    | .option child =>
      if isBoxed s then do
        let flag ← getField c v "has_value"
        let front ← encodePrimitive c .bool flag
        -- The flag comes first: a bad one is refused even where the function is missing.
        if flag.isWhole 0 then return front
        let f ← c.function child.key
        return front ++ (← encodeShape c depth f (← getField c v "value"))
      else
        match v with
        | .null => .ok [0]
        | v => do
          let f ← c.function child.key
          return 1 :: (← encodeShape c depth f v)
    | .sequence child => do
      let items ← getItems v
      let back ←
        encodeItems (fun item => do encodeShape c depth (← c.function child.key) item) items
      return Length.encode items.length ++ back
    | .array child size => do
      let items ← getItems (← getField c v "values")
      if items.length ≠ size then throw (.encode (.wrongArraySize size items.length))
      encodeItems (fun item => do encodeShape c depth (← c.function child.key) item) items
    | .struct _ fields => encodeFields c (encodeShape c depth) v fields
    | .simpleEnum key members => encodeMember c key members v
    | .taggedEnum key variants => do
      let choice ← getField c v "choice"
      checkChoice c key variants.length v choice
      -- Being in range is a comparison only: a truth value passes it, and is refused here.
      let front ← encodePrimitive c (.integer false .w64) choice
      return front ++ (← encodePayload c (encodeShape c depth) v variants choice)

/-- The bytes of a value under a key of the table. -/
def encode (c : Codec) (key : String) (v : Value) : Encoded := do
  encodeShape c c.depth (← c.entry key) v

end Codec

end SolidityWire
