/-
What the formats of a registry are on the wire, told on the registry alone: without shapes, keys and a table.
Values are taken as they are built of the generated types: records with their fields in the declared order, and
members with their names and ordinals.
-/
import SolidityWire.Codec.FieldName
import SolidityWire.Proofs.Schema.Occurs
import SolidityWire.Proofs.Wire.Primitive
import SolidityWire.Proofs.Wire.Row
import SolidityWire.Shape.Lowering

namespace SolidityWire

open Codec Text

/-! ## Primitive types -/

/-- The wire rules of the primitive types: integers are little-endian, negative ones as two's complement; texts
and bytes stand behind the number of their characters or bytes. -/
inductive Primitive.Encodes : Primitive → Value → List UInt8 → Prop
  | unit : Encodes .unit .null []
  | false : Encodes .bool (.boolean false) [0]
  | true : Encodes .bool (.boolean true) [1]
  | integer {signed : Bool} {width : IntWidth} {n : Int} {e : List UInt8} :
      Integer.inRange signed width.bytes n = true → e.length = width.bytes →
      (Integer.ofBytes e : Int) = n % (256 ^ width.bytes : Nat) → Encodes (.integer signed width) (.integer n) e
  | char {c : Char} {b : UInt8} : b.toNat = c.toNat → Encodes .char (.text (String.singleton c)) [b]
  | string (s : String) : Encodes .string (.text s) (Length.encode s.toList.length ++ Utf8.encode s.toList)
  | bytes (data : List UInt8) : Encodes .bytes (.bytes data) (Length.encode data.length ++ data)

theorem Integer.encode_eq_iff {width : Nat} {n : Int} {e : List UInt8} :
    e = encode width n ↔ e.length = width ∧ (ofBytes e : Int) = n % (256 ^ width : Nat) := by
  have hpos : (0 : Int) < (256 ^ width : Nat) := by exact_mod_cast Nat.pow_pos (by decide)
  have hmod := Int.emod_nonneg n (Int.ne_of_gt hpos)
  have hlt := Int.emod_lt_of_pos n hpos
  constructor
  · rintro rfl
    refine ⟨encode_length width n, ?_⟩
    rw [encode, ofBytes_toBytes, modulus, Nat.mod_eq_of_lt (by omega)]
    omega
  · rintro ⟨rfl, h⟩
    rw [encode, modulus, ← h, Int.toNat_natCast, toBytes_ofBytes]

/-- Values of a primitive type are written by its rule. -/
theorem Wire.encode_eq_ok_iff {admits : Nat → Prop} {p : Primitive} {v : Value} (ht : Typed admits p v)
    {e : List UInt8} : encode p v = .ok e ↔ p.Encodes v e := by
  cases ht with
  | unit =>
    constructor
    · intro h; cases h; exact .unit
    · intro h; cases h; rfl
  | bool b =>
    constructor
    · intro h
      cases b <;> cases h
      · exact .false
      · exact .true
    · intro h; cases h <;> rfl
  | integer signed width n =>
    rw [encode_integer, Integer.encode_eq_iff]
    constructor
    · rintro ⟨hr, hl, he⟩; exact .integer hr hl he
    · intro h
      cases h with
      | integer hr hl he => exact ⟨hr, hl, he⟩
  | char c hc =>
    rw [encode_char hc]
    constructor
    · intro h; cases h; exact .char (Utf8.toNat_toUInt8 hc)
    · intro h
      generalize hv : Value.text (String.singleton c) = v at h
      cases h with
      | @char c' b hb =>
        -- a text of one character tells the character
        have hcc : c = c' := by
          have := congrArg String.toList (Value.text.inj hv)
          rw [String.toList_singleton, String.toList_singleton] at this
          exact (List.cons.inj this).1
        rw [hcc, ← hb, Utf8.toUInt8_toNat]
  | string s _ =>
    rw [encode_string]
    constructor
    · intro h; cases h; exact .string s
    · intro h; cases h; rfl
  | bytes data _ =>
    rw [encode_bytes]
    constructor
    · intro h; cases h; exact .bytes data
    · intro h; cases h; rfl

/-! ## Formats -/

/-- Whether null is a value of the format, so that an option of it needs a flag of its own. -/
def Format.canBeNull : Format → Bool
  | .option _ | .primitive .unit => true
  | _ => false

/-- What a container is put together from, if it is no enumeration. -/
def Container.parts? : Container → Option (List Format)
  | .newTypeStruct content => some [content]
  | .tupleStruct contents => some contents
  | .struct fields => some (fields.map Prod.snd)
  | .unitStruct | .enum _ => none

/-- What a variant carries, as one format. -/
def VariantFormat.payload? : VariantFormat → Option Format
  | .newType content => some content
  | .tuple contents => some (.tuple contents)
  | .struct fields => some (.tuple (fields.map Prod.snd))
  | .unit | .variable _ => none

/-- The rank of a variant: how many variants have a lower index. -/
def rank (vs : List IndexedVariant) (v : IndexedVariant) : Nat :=
  vs.countP fun w => w.index < v.index

/-- Variants that are listed by increasing index are listed by rank. -/
theorem rank_of_getElem? : ∀ {vs : List IndexedVariant} {n : Nat} {v : IndexedVariant},
    (vs.Pairwise fun v w => v.index < w.index) → vs[n]? = some v → rank vs v = n
  | w :: ws, 0, v, hp, h => by
    cases h
    rw [rank, List.countP_eq_zero]
    intro u hu
    have : ¬u.index < w.index := by
      rcases List.mem_cons.1 hu with rfl | hu
      · omega
      · have := (List.pairwise_cons.1 hp).1 u hu
        omega
    simpa using this
  | w :: ws, n + 1, v, hp, h => by
    have hlt := (List.pairwise_cons.1 hp).1 v (List.mem_of_getElem? h)
    have ih := rank_of_getElem? (List.pairwise_cons.1 hp).2 h
    rw [rank, List.countP_cons, if_pos (by simpa using hlt)]
    exact congrArg Nat.succ ih

theorem getElem?_rank {vs : List IndexedVariant} {v : IndexedVariant}
    (hp : vs.Pairwise fun v w => v.index < w.index) (h : v ∈ vs) : vs[rank vs v]? = some v := by
  obtain ⟨n, hn⟩ := List.getElem?_of_mem h
  rwa [rank_of_getElem? hp hn]

/-- The reference encoding. Whatever is put together from parts, be it a tuple, a struct, an entry of a map or
what a variant carries, is written as the tuple of its parts. -/
inductive Registry.Encodes (r : Registry) : Format → Value → List UInt8 → Prop
  | primitive {p : Primitive} {v : Value} {e : List UInt8} : p.Encodes v e → Encodes r (.primitive p) v e
  | none {f : Format} : f.canBeNull = false → Encodes r (.option f) .null [0]
  | some {f : Format} {v : Value} {e : List UInt8} : f.canBeNull = false → Encodes r f v e →
      Encodes r (.option f) v (1 :: e)
  | flaggedNone {f : Format} {key : String} : f.canBeNull = true →
      Encodes r (.option f) (.record key [("has_value", .boolean false), ("value", .null)]) [0]
  | flaggedSome {f : Format} {key : String} {v : Value} {e : List UInt8} : f.canBeNull = true → Encodes r f v e →
      Encodes r (.option f) (.record key [("has_value", .boolean true), ("value", v)]) (1 :: e)
  | sequence {f : Format} {vs : List Value} {e : List UInt8} :
      Row (fun p e => Encodes r p.1 p.2 e) (vs.map fun v => (f, v)) e →
      Encodes r (.sequence f) (.list vs) (Length.encode vs.length ++ e)
  | map {key value : Format} {vs : List Value} {e : List UInt8} :
      Row (fun p e => Encodes r p.1 p.2 e) (vs.map fun v => (.tuple [key, value], v)) e →
      Encodes r (.map key value) (.list vs) (Length.encode vs.length ++ e)
  | tuple {fs : List Format} {key : String} {entries : List (String × Value)} {e : List UInt8} :
      entries.length = fs.length → Row (fun p e => Encodes r p.1 p.2 e) (fs.zip (entries.map Prod.snd)) e →
      Encodes r (.tuple fs) (.record key entries) e
  | array {f : Format} {size : Nat} {key : String} {vs : List Value} {e : List UInt8} : vs.length = size →
      Row (fun p e => Encodes r p.1 p.2 e) (vs.map fun v => (f, v)) e →
      Encodes r (.array f size) (.record key [("values", .list vs)]) e
  | struct {name : String} {c : Container} {fs : List Format} {v : Value} {e : List UInt8} :
      (name, c) ∈ r → c.parts? = some fs → Encodes r (.tuple fs) v e → Encodes r (.typeName name) v e
  | simpleEnum {name key : String} {vs : List IndexedVariant} {v : IndexedVariant} :
      (name, .enum vs) ∈ r → vs.all (·.format.isUnit) = true → v ∈ vs → rank vs v < 256 →
      Encodes r (.typeName name) (.member key v.name (rank vs v)) [(rank vs v).toUInt8]
  | unitVariant {name key : String} {vs : List IndexedVariant} {v : IndexedVariant} {fields : List (String × Value)}
      {shades : Bool} :
      (name, .enum vs) ∈ r → vs.all (·.format.isUnit) = false → v ∈ vs → v.format.payload? = none →
      rank vs v < 2 ^ 64 → Encodes r (.typeName name) (.record key (("choice", .integer (rank vs v)) :: fields) shades)
        (Integer.toBytes 8 (rank vs v))
  | payloadVariant {name key : String} {vs : List IndexedVariant} {v : IndexedVariant}
      {fields : List (String × Value)} {shades : Bool} {f : Format} {x : Value} {e : List UInt8} :
      (name, .enum vs) ∈ r → vs.all (·.format.isUnit) = false → v ∈ vs → v.format.payload? = some f →
      rank vs v < 2 ^ 64 → (fieldName (payloadField v.name), x) ∈ fields → Encodes r f x e →
      Encodes r (.typeName name) (.record key (("choice", .integer (rank vs v)) :: fields) shades)
        (Integer.toBytes 8 (rank vs v) ++ e)

end SolidityWire
