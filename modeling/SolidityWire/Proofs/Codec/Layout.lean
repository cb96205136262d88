/-
Values of a table's shapes and their codes, without looking at the functions of a codec. One layer of a
value is a front of its own and parts behind it, each under the key of its shape; a value is well typed,
and has a code, if its layers fit together down to its leaves.

Four things are left open, since they are not the same for the values that one may write and for those
that are read: what a tagged record holds in the fields of other variants, how long things may be, of which
enumerations there are members, and which tagged records there are.
-/
import SolidityWire.Codec.Types
import SolidityWire.Proofs.Wire.Primitive
import SolidityWire.Proofs.Wire.Row

namespace SolidityWire

open Codec GeneratedType

/-! ## Layers -/

/-- A part of a value, with the key under which it is written. -/
abbrev Part := String × Value

/-- What is in the fields of the variants that are not chosen, by type and field, which lengths there are,
which enumerations have members, and of which types tagged records are. -/
structure Convention where
  absent : String → String → Value
  admits : Nat → Prop
  enumerates : EnumType → Prop
  records : RecordType → Prop

namespace Convention

/-- Fields of other variants hold null. -/
def nulls (admits : Nat → Prop) : Convention :=
  ⟨fun _ _ => .null, admits, fun _ => True, fun _ => True⟩

/-- Fields of other variants hold what the type has under their names, and lengths can be written in 64
bits: these are the values that are read. -/
def read : Convention :=
  ⟨fun key name => (typeAttribute? (Text.asciiName key) name).getD .null, Wire.isLength, fun _ => True, fun _ => True⟩

/-- Members are only those of enumerations that leave the function alone which tells their ordinals, and tagged
records those of types that leave the operation alone which reads fields. -/
def telling (k : Convention) : Convention :=
  { k with
    enumerates := fun t => k.enumerates t ∧ t.hasAttribute "__int__" = false
    records := fun t => k.records t ∧ t.isSealed = false }

/-- A convention that allows at least what the other does, with the same absent values. -/
structure Le (k l : Convention) : Prop where
  absent : k.absent = l.absent
  admits : ∀ n, k.admits n → l.admits n
  enumerates : ∀ t, k.enumerates t → l.enumerates t
  records : ∀ t, k.records t → l.records t

theorem telling_le (k : Convention) : k.telling.Le k :=
  ⟨rfl, fun _ h => h, fun _ h => h.1, fun _ h => h.1⟩

end Convention

/-- Variants with their fields and payloads. -/
abbrev Variants := List (String × Option String × Option Shape)

/-- The field and the shape of what the variant of the number carries. -/
def chosen? (variants : Variants) (n : Nat) : Option (String × Shape) :=
  match variants[n]? with
  | some (_, some field, some child) => some (field, child)
  | _ => none

/-- The fields of a tagged record behind its choice: `v` is in the chosen one. -/
def payloadEntries (absent : String → Value) (variants : Variants) (chosen : Option String) (v : Value) :
    List (String × Value) :=
  (Shape.payloadFields variants).map fun field =>
    (fieldName field, if chosen = some field then v else absent (fieldName field))

/-- What a variant carries has a field of the record, and is a child of the shape. -/
theorem mem_of_chosen? {variants : Variants} {n : Nat} {chosen : String × Shape}
    (h : chosen? variants n = some chosen) :
    chosen.1 ∈ Shape.payloadFields variants ∧ (some chosen.1, chosen.2) ∈ Shape.payloads variants := by
  unfold chosen? at h
  split at h
  · rename_i name field child hv
    cases h
    have hmem := List.mem_of_getElem? hv
    exact ⟨List.mem_filterMap.2 ⟨_, hmem, rfl⟩, List.mem_filterMap.2 ⟨_, hmem, rfl⟩⟩
  · cases h

/-- The chosen field holds the value. -/
theorem mem_payloadEntries {absent : String → Value} {variants : Variants} {n : Nat} {field : String} {child : Shape}
    (h : chosen? variants n = some (field, child)) (v : Value) :
    (fieldName field, v) ∈ payloadEntries absent variants ((chosen? variants n).map Prod.fst) v :=
  List.mem_map.2 ⟨field, (mem_of_chosen? h).1, by rw [h, Option.map_some, if_pos rfl]⟩

theorem payloadEntries_map_fst (absent : String → Value) (variants : Variants) (chosen : Option String) (v : Value) :
    (payloadEntries absent variants chosen v).map Prod.fst = (Shape.payloadFields variants).map fieldName := by
  rw [payloadEntries, List.map_map]
  rfl

/-- The record of an option with a flag. -/
def boxOf (key : String) (present : Bool) (v : Value) : Value :=
  .record key [("has_value", .boolean present), ("value", v)]

/-- One layer of the values of a shape: the front, if it can be written, and the parts behind it. -/
inductive Layout (k : Convention) : Shape → Value → Except EncodeError (List UInt8) → List Part → Prop
  | primitive {p : Primitive} {v : Value} : Wire.Typed k.admits p v →
      Layout k (.primitive p) v (Wire.encode p v) []
  | absent {child : Shape} : isBoxed (.option child) = false → Layout k (.option child) .null (.ok [0]) []
  | present {child : Shape} {v : Value} : isBoxed (.option child) = false →
      Layout k (.option child) v (.ok [1]) [(child.key, v)]
  | emptyBox {child : Shape} : isBoxed (.option child) = true →
      Layout k (.option child) (boxOf (Shape.option child).key false .null) (.ok [0]) []
  | box {child : Shape} {v : Value} : isBoxed (.option child) = true →
      Layout k (.option child) (boxOf (Shape.option child).key true v) (.ok [1]) [(child.key, v)]
  | sequence {child : Shape} {vs : List Value} : k.admits vs.length →
      Layout k (.sequence child) (.list vs) (.ok (Length.encode vs.length)) (vs.map fun v => (child.key, v))
  | array {child : Shape} {size : Int} {vs : List Value} : vs.length = size →
      Layout k (.array child size) (.record (Shape.array child size).key [("values", .list vs)]) (.ok [])
        (vs.map fun v => (child.key, v))
  | struct {key : String} {fields : List (String × Shape)} {vs : List Value} :
      (structRecord key fields).obstacle? = none → vs.length = fields.length →
      Layout k (.struct key fields) (.record key ((fields.map fun field => fieldName field.1).zip vs)) (.ok [])
        ((fields.map fun field => field.2.key).zip vs)
  | simpleEnum {key : String} {names : List String} {t : EnumType} {name : String} {n : Nat} :
      EnumType.ofNames (Text.asciiName key) names = .ok t → k.enumerates t → t.member? n = some name →
      Layout k (.simpleEnum key names) (.member key name n) (Wire.encode (.integer false .w8) (.integer n)) []
  | taggedEnum {key : String} {variants : Variants} {n : Nat} {v : Value} :
      (taggedRecord key variants).obstacle? = none → k.records (taggedRecord key variants) → n < variants.length →
      Layout k (.taggedEnum key variants)
        (.record key (("choice", .integer n) ::
          payloadEntries (k.absent key) variants ((chosen? variants n).map Prod.fst) v) true)
        (Wire.encode (.integer false .w64) (.integer n))
        ((chosen? variants n).toList.map fun chosen => (chosen.2.key, v))

section Inversion

variable {k : Convention} {v : Value} {front : Except EncodeError (List UInt8)} {parts : List Part}

theorem layout_primitive_iff {p : Primitive} :
    Layout k (.primitive p) v front parts ↔ Wire.Typed k.admits p v ∧ front = Wire.encode p v ∧ parts = [] := by
  constructor
  · intro h; cases h with | primitive ht => exact ⟨ht, rfl, rfl⟩
  · rintro ⟨ht, rfl, rfl⟩; exact .primitive ht

theorem not_layout_reference {name : String} : ¬Layout k (.reference name) v front parts :=
  fun h => nomatch h

theorem layout_option_iff {child : Shape} (hb : isBoxed (.option child) = false) :
    Layout k (.option child) v front parts ↔
      v = .null ∧ front = .ok [0] ∧ parts = [] ∨ front = .ok [1] ∧ parts = [(child.key, v)] := by
  constructor
  · intro h
    cases h with
    | absent _ => exact Or.inl ⟨rfl, rfl, rfl⟩
    | present _ => exact Or.inr ⟨rfl, rfl⟩
    | emptyBox hb' => rw [hb] at hb'; cases hb'
    | box hb' => rw [hb] at hb'; cases hb'
  · rintro (⟨rfl, rfl, rfl⟩ | ⟨rfl, rfl⟩)
    · exact .absent hb
    · exact .present hb

theorem layout_box_iff {child : Shape} (hb : isBoxed (.option child) = true) :
    Layout k (.option child) v front parts ↔
      v = boxOf (Shape.option child).key false .null ∧ front = .ok [0] ∧ parts = [] ∨
      ∃ x, v = boxOf (Shape.option child).key true x ∧ front = .ok [1] ∧ parts = [(child.key, x)] := by
  constructor
  · intro h
    cases h with
    | absent hb' => rw [hb] at hb'; cases hb'
    | present hb' => rw [hb] at hb'; cases hb'
    | emptyBox _ => exact Or.inl ⟨rfl, rfl, rfl⟩
    | box _ => exact Or.inr ⟨_, rfl, rfl, rfl⟩
  · rintro (⟨rfl, rfl, rfl⟩ | ⟨x, rfl, rfl, rfl⟩)
    · exact .emptyBox hb
    · exact .box hb

theorem layout_sequence_iff {child : Shape} :
    Layout k (.sequence child) v front parts ↔ ∃ vs, k.admits vs.length ∧ v = .list vs ∧
      front = .ok (Length.encode vs.length) ∧ parts = vs.map fun v => (child.key, v) := by
  constructor
  · intro h; cases h with | sequence hl => exact ⟨_, hl, rfl, rfl, rfl⟩
  · rintro ⟨vs, hl, rfl, rfl, rfl⟩; exact .sequence hl

theorem layout_array_iff {child : Shape} {size : Int} :
    Layout k (.array child size) v front parts ↔ ∃ vs, (vs.length : Int) = size ∧
      v = .record (Shape.array child size).key [("values", .list vs)] ∧ front = .ok [] ∧
      parts = vs.map fun v => (child.key, v) := by
  constructor
  · intro h; cases h with | array hl => exact ⟨_, hl, rfl, rfl, rfl⟩
  · rintro ⟨vs, hl, rfl, rfl, rfl⟩; exact .array hl

theorem layout_struct_iff {key : String} {fields : List (String × Shape)} :
    Layout k (.struct key fields) v front parts ↔ ∃ vs, (structRecord key fields).obstacle? = none ∧
      vs.length = fields.length ∧ v = .record key ((fields.map fun field => fieldName field.1).zip vs) ∧
      front = .ok [] ∧ parts = (fields.map fun field => field.2.key).zip vs := by
  constructor
  · intro h; cases h with | struct ho hl => exact ⟨_, ho, hl, rfl, rfl, rfl⟩
  · rintro ⟨vs, ho, hl, rfl, rfl, rfl⟩; exact .struct ho hl

theorem layout_simpleEnum_iff {key : String} {names : List String} :
    Layout k (.simpleEnum key names) v front parts ↔ ∃ t name n,
      EnumType.ofNames (Text.asciiName key) names = .ok t ∧ k.enumerates t ∧ t.member? n = some name ∧
      v = .member key name n ∧ front = Wire.encode (.integer false .w8) (.integer n) ∧ parts = [] := by
  constructor
  · intro h; cases h with | simpleEnum ht hk hn => exact ⟨_, _, _, ht, hk, hn, rfl, rfl, rfl⟩
  · rintro ⟨t, name, n, ht, hk, hn, rfl, hf, rfl⟩; exact hf ▸ .simpleEnum ht hk hn

theorem layout_taggedEnum_iff {key : String} {variants : Variants} :
    Layout k (.taggedEnum key variants) v front parts ↔ ∃ (n : Nat) (x : Value),
      (taggedRecord key variants).obstacle? = none ∧ k.records (taggedRecord key variants) ∧ n < variants.length ∧
      v = .record key (("choice", .integer n) ::
        payloadEntries (k.absent key) variants ((chosen? variants n).map Prod.fst) x) true ∧
      front = Wire.encode (.integer false .w64) (.integer n) ∧
      parts = (chosen? variants n).toList.map fun chosen => (chosen.2.key, x) := by
  constructor
  · intro h; cases h with | taggedEnum ho hk hn => exact ⟨_, _, ho, hk, hn, rfl, rfl, rfl⟩
  · rintro ⟨n, x, ho, hk, hn, rfl, hf, rfl⟩; exact hf ▸ .taggedEnum ho hk hn

end Inversion

/-- The parts are under the keys of the shape's children. -/
theorem Layout.key_mem {k : Convention} {s : Shape} {v : Value} {front : Except EncodeError (List UInt8)}
    {parts : List Part} (h : Layout k s v front parts) : ∀ p ∈ parts, ∃ child ∈ s.children, child.key = p.1 := by
  intro p hp
  cases h with
  | primitive _ | absent _ | emptyBox _ | simpleEnum _ _ _ => cases hp
  | present _ | box _ => exact ⟨_, List.mem_cons_self, by rw [List.mem_singleton.1 hp]⟩
  | sequence _ | array _ =>
    obtain ⟨v, -, rfl⟩ := List.mem_map.1 hp
    exact ⟨_, List.mem_cons_self, rfl⟩
  | struct _ _ =>
    obtain ⟨field, hf, hk⟩ := List.mem_map.1 (List.of_mem_zip (a := p.1) (b := p.2) hp).1
    exact ⟨field.2, List.mem_map_of_mem hf, hk⟩
  | taggedEnum _ _ _ =>
    obtain ⟨chosen, hch, rfl⟩ := List.mem_map.1 hp
    exact ⟨chosen.2, List.mem_map_of_mem (f := Prod.snd) (mem_of_chosen? (Option.mem_toList.1 hch)).2, rfl⟩

/-! ## Values -/

/-- The value is one of the shape under the key, down to its leaves. -/
inductive Typed (k : Convention) (t : Table) : String → Value → Prop
  | mk {key : String} {s : Shape} {v : Value} {front : Except EncodeError (List UInt8)} {parts : List Part} :
      t.get? key = some s → Layout k s v front parts → (∀ p ∈ parts, Typed k t p.1 p.2) → Typed k t key v

theorem typed_iff {k : Convention} {t : Table} {key : String} {s : Shape} {v : Value} (hs : t.get? key = some s) :
    Typed k t key v ↔ ∃ front parts, Layout k s v front parts ∧ ∀ p ∈ parts, Typed k t p.1 p.2 := by
  constructor
  · intro h
    cases h with
    | mk hs' hl hp =>
      cases hs.symm.trans hs'
      exact ⟨_, _, hl, hp⟩
  · rintro ⟨front, parts, hl, hp⟩
    exact .mk hs hl hp

/-! ## Codes -/

/-- The bytes are the code of the value under the key. -/
inductive Codes (k : Convention) (t : Table) : String → Value → List UInt8 → Prop
  | mk {key : String} {s : Shape} {v : Value} {front body : List UInt8} {parts : List Part} :
      t.get? key = some s → Layout k s v (.ok front) parts → Row (fun p e => Codes k t p.1 p.2 e) parts body →
      Codes k t key v (front ++ body)

/-- The bytes are the front of a layer and the codes of its parts. -/
def LayerCode (k : Convention) (code : Part → List UInt8 → Prop) (s : Shape) (v : Value) (e : List UInt8) : Prop :=
  ∃ front parts body, Layout k s v (.ok front) parts ∧ Row code parts body ∧ e = front ++ body

/-- A layer without parts is its front. -/
theorem LayerCode.leaf {k : Convention} {code : Part → List UInt8 → Prop} {s : Shape} {v : Value} {e : List UInt8}
    (h : Layout k s v (.ok e) []) : LayerCode k code s v e :=
  ⟨e, [], [], h, .nil, (List.append_nil e).symm⟩

theorem codes_iff {k : Convention} {t : Table} {key : String} {s : Shape} {v : Value} {e : List UInt8}
    (hs : t.get? key = some s) : Codes k t key v e ↔ LayerCode k (fun p e => Codes k t p.1 p.2 e) s v e := by
  constructor
  · intro h
    cases h with
    | mk hs' hl hr =>
      cases hs.symm.trans hs'
      exact ⟨_, _, _, hl, hr, rfl⟩
  · rintro ⟨front, parts, body, hl, hr, rfl⟩
    exact .mk hs hl hr

end SolidityWire
