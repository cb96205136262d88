/-
The codec of a table: its shapes, the functions under ASCII names, and the generated types. Shapes
whose keys have one ASCII name share the functions of the latest of them.
-/
import SolidityWire.Codec.Refusal
import SolidityWire.Codec.Types
import SolidityWire.Error
import SolidityWire.Text.AsciiName
import SolidityWire.Text.Surrogate
import SolidityWire.Wire.Primitive

namespace SolidityWire

/-! ## Errors -/

/-- Why the codec gives no result. -/
inductive CodecError where
  | failed (e : Error)
  | encode (e : EncodeError)
  | decode (e : DecodeError)
  | misuse (m : Misuse)
  deriving Inhabited

/-- The reason that a value cannot be encoded, unless its words cannot be told. -/
def CodecError.ofEncode (e : EncodeError) : CodecError :=
  match e.fault? with
  | some m => .misuse m
  | none => .encode e

/-! ## Codecs -/

/-- A table with its functions under their ASCII names, the latest first, and the edition of the language
that its types are made in. -/
structure Codec where
  table : Table
  functions : List (String × Shape)
  edition : Codec.Edition := .early

namespace Codec

/-- What the types that the shapes need have against being made. -/
def typeFault? (shapes : List Shape) : Option Misuse :=
  shapes.findSome? fun s =>
    match GeneratedType.ofShape? s with
    | some (.error m) => some m
    | _ => none

/-- The keys that take part in refusals. -/
def refusalKeys (shapes : List Shape) : List String :=
  shapes.filterMap fun
    | .taggedEnum name _ => some name
    | _ => none

/-- What the keys that take part in refusals have against it. -/
def refusalFault? (keys : List String) : Option Misuse :=
  if keys.any Text.hasLoneHalf then some .noEncoding
  else if keys.any fun key => key.toList.contains '\x00' then some .badValue
  else keys.findSome? fun key =>
    match Refusal.ofKey key with
    | .error m => some m
    | .ok _ => none

/-- The codec of a table. -/
def ofTable (t : Table) (edition : Edition := .early) : Except CodecError Codec :=
  match (typeFault? t.shapes).or (refusalFault? (refusalKeys t.shapes)) with
  | some m => .error (.misuse m)
  -- Reversed, so that looking up a name finds the latest shape of those that share it.
  | none => .ok ⟨t, (t.shapes.map fun s => (Text.asciiName s.key, s)).reverse, edition⟩

/-- The shape whose functions are called under a key. -/
def function? (c : Codec) (key : String) : Option Shape :=
  c.functions.lookup (Text.asciiName key)

/-- The shape whose functions are called under a key, or the reason that there is none. -/
def function (c : Codec) (key : String) : Except CodecError Shape :=
  match c.function? key with
  | some s => .ok s
  | none => .error (.misuse .unknownName)

/-- The shape whose functions serve a key of the table. -/
def entry (c : Codec) (key : String) : Except CodecError Shape :=
  if c.table.contains key then c.function key else .error (.failed (.unresolved key))

/-- How deep functions may call each other: each shape of the table can be passed twice, and never
less than a fixed depth, which only shapes that lead back to themselves can use up. The stack that
is left to a program is not bounded here: how many shapes, one inside another, exhaust it hangs on
what runs it. -/
def depth (c : Codec) : Nat :=
  max Limit.calls (2 * c.table.size + 2)

/-! ## Generated types -/

/-- The generated type of a key. -/
def typeOf (c : Codec) (key : String) : Except CodecError GeneratedType :=
  match (c.table.get? key).bind GeneratedType.ofShape? with
  | some (.ok t) => .ok t
  | some (.error m) => .error (.misuse m)
  | none => .error (.failed (.unresolved key))

/-- The enumeration that a member belongs to. -/
def enumOf? (c : Codec) (key : String) : Option EnumType :=
  match c.typeOf key with
  | .ok (.enum t) => some t
  | _ => none

/-- The member of an enumeration with the ordinal that a value is equal to. -/
def memberAt? (key : String) (t : EnumType) (v : Value) : Option Value :=
  (t.members.find? fun (_, i) => v.isWhole i).map fun (name, i) => .member key name i

/-- The member of an enumeration that a value is equal to. The value is compared with each of them, and a
record may have a field in the place of the operation for that. -/
def findMember (key : String) (t : EnumType) (v : Value) : Except CodecError (Option Value) :=
  if !t.members.isEmpty && (v.isSealed || v.lacks "__eq__") then .error (.misuse .wrongType)
  else .ok (memberAt? key t v)

/-- What it means that an enumeration has no member for a value: `refusal`, unless it cannot say so. -/
def noMember (edition : Edition) (t : EnumType) (refusal : CodecError) : CodecError :=
  if t.isMute edition then .misuse .wrongType else refusal

/-- The member of a generated enumeration with the given ordinal. -/
def newMember (c : Codec) (key : String) (v : Value) : Except CodecError Value := do
  match ← c.typeOf key with
  | .record _ => throw (.misuse .wrongType)
  | .enum t =>
    match ← findMember key t v with
    | some m => return m
    | none => throw (noMember c.edition t (.misuse (v.literalFault?.getD .badValue)))

/-- A record of a generated type. -/
def newRecord (c : Codec) (key : String) (given : List (String × Value)) :
    Except CodecError Value := do
  match ← c.typeOf key with
  | .record t => (t.make key given).mapError .misuse
  | .enum _ =>
    match given with
    | [("value", v)] => c.newMember key v
    | _ => throw (.misuse .wrongType)

end Codec

end SolidityWire
