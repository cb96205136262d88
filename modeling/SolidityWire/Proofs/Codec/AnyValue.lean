/-
Values of any kind. Writing takes a value apart by fields and items and does not ask whether it is one of the
shape; but what it writes is then the code of a value of the shape, unless no record of the shape's type can
be made at all or looked into, or a view of wide items is written as a byte string.
-/
import SolidityWire.Proofs.Codec.Encoding
import SolidityWire.Proofs.Codec.Members

namespace SolidityWire

open Codec GeneratedType

/-! ## Parts of values -/

namespace Codec

/-- What can be got from a value by taking fields and items. -/
inductive Leads (c : Codec) : Value → Value → Prop
  | refl (x : Value) : Leads c x x
  | field {x y z : Value} {name : String} : c.getField x name = .ok y → Leads c y z → Leads c x z
  | item {x y z : Value} {items : List Value} : x.items? = some items → y ∈ items → Leads c y z → Leads c x z

/-- The property is that of everything that can be got from the value. -/
def Throughout (c : Codec) (Q : Value → Prop) (x : Value) : Prop :=
  ∀ y, c.Leads x y → Q y

/-- Nothing that can be got from the value has more items than a length can count. -/
def Bounded (c : Codec) : Value → Prop :=
  c.Throughout fun y => Wire.isLength y.extent

/-- Nothing that can be got from the value has more items than a length can count, or is a view of items that
are wider than a byte. -/
def Measured (c : Codec) : Value → Prop :=
  c.Throughout fun y => Wire.isLength y.extent ∧ y.IsFlat

variable {c : Codec} {Q : Value → Prop} {x y : Value}

theorem Throughout.self (h : c.Throughout Q x) : Q x :=
  h x (.refl x)

theorem Throughout.field (h : c.Throughout Q x) {name : String} (hy : c.getField x name = .ok y) :
    c.Throughout Q y :=
  fun z hz => h z (.field hy hz)

/-- A property that goes over to fields and items holds of all that a value leads to. -/
theorem throughout_of_closed
    (hfield : ∀ x y name, Q x → c.getField x name = .ok y → Q y)
    (hitem : ∀ x y items, Q x → x.items? = some items → y ∈ items → Q y) (hx : Q x) :
    c.Throughout Q x := by
  intro z hz
  induction hz with
  | refl _ => exact hx
  | field h _ ih => exact ih (hfield _ _ _ hx h)
  | item hi h _ ih => exact ih (hitem _ _ _ hx hi h)

theorem Throughout.item (h : c.Throughout Q x) {items : List Value} (hi : getItems x = .ok items) (hy : y ∈ items) :
    c.Throughout Q y :=
  fun z hz => h z (.item (items?_of_getItems hi) hy hz)

theorem extent_of_getItems {items : List Value} (h : getItems x = .ok items) : x.extent = items.length := by
  rw [Value.extent, items?_of_getItems h, Option.getD_some]

theorem keys_of_fieldParts (hx : c.Throughout Q x) : ∀ {fields : List (String × Shape)} {ps : List Part},
    fieldParts c x fields = .ok ps →
    ps.map Prod.fst = (fields.map fun field => field.2.key) ∧ ∀ p ∈ ps, c.Throughout Q p.2
  | [], _, h => by cases h; exact ⟨rfl, fun _ h => nomatch h⟩
  | (name, child) :: rest, ps, h => by
    obtain ⟨y, hy, h⟩ := bind_eq_ok.1 h
    obtain ⟨ps', hps, h⟩ := bind_eq_ok.1 h
    cases h
    obtain ⟨hkeys, hb⟩ := keys_of_fieldParts hx hps
    refine ⟨congrArg _ hkeys, fun p hp => ?_⟩
    rcases List.mem_cons.1 hp with rfl | hp
    · exact hx.field hy
    · exact hb p hp

end Codec

/-! ## Numbers -/

theorem Value.compareWhole?_of_wholeNumber? {x : Value} {n : Int} (h : x.wholeNumber? = some n) (m : Int) :
    x.compareWhole? m = some (some (compare n m)) := by
  cases x with
  | boolean _ | integer _ | member _ _ _ => simp only [compareWhole?, h, Option.map_some]
  | _ => cases h

namespace Codec

variable {c : Codec} {x : Value}

theorem encode_of_encodePrimitive {p : Primitive} {e : List UInt8} (h : encodePrimitive c p x = .ok e) :
    Wire.encode p x = .ok e := by
  unfold encodePrimitive at h
  split at h
  · split at h
    · cases h
    · exact mapError_eq_ok.1 h
  · exact mapError_eq_ok.1 h

theorem lt_of_checkChoice {key : String} {count : Nat} {v : Value} {n : Int} {u : Unit} (hn : x.wholeNumber? = some n)
    (h : checkChoice c key count v x = .ok u) : 0 ≤ n ∧ n < count := by
  simp only [checkChoice, Value.compareWhole?_of_wholeNumber? hn] at h
  split at h
  · rename_i hlt
    simp only [Option.some.injEq, Int.compare_eq_eq, Int.compare_eq_gt, Int.compare_eq_lt] at hlt
    omega
  · cases h

theorem member?_of_memberAt? {key : String} {t : EnumType} {m : Value} (h : memberAt? key t x = some m) :
    ∃ name n, m = .member key name n ∧ ∃ name', t.member? n = some name' := by
  obtain ⟨⟨name, n⟩, hf, rfl⟩ := Option.map_eq_some_iff.1 h
  refine ⟨name, n, rfl, ?_⟩
  cases hm : t.member? n with
  | some name' => exact ⟨name', rfl⟩
  | none =>
    have := List.find?_eq_none.1 (Option.map_eq_none_iff.1 hm) _ (List.mem_of_find?_eq_some hf)
    simp at this

end Codec

/-! ## Layers -/

/-- Records of the type that is generated for the shape can be made and looked into. -/
def Shape.IsOpen : Shape → Prop
  | .struct key fields => (structRecord key fields).obstacle? = none
  | .taggedEnum key variants =>
    (taggedRecord key variants).obstacle? = none ∧ (taggedRecord key variants).isSealed = false
  | _ => True

theorem Layout.isOpen {k : Convention} {s : Shape} {v : Value} {front : Except EncodeError (List UInt8)}
    {parts : List Part} (h : Layout k.telling s v front parts) : s.IsOpen := by
  cases h with
  | struct ho _ => exact ho
  | taggedEnum ho hk _ => exact ⟨ho, hk.2⟩
  | _ => trivial

theorem zip_keys {key : String} : ∀ {items ws : List Value}, ws.length = items.length →
    ((items.map fun item => (key, item)).map Prod.fst).zip ws = ws.map fun w => (key, w)
  | [], [], _ => rfl
  | _ :: _, _ :: _, h => congrArg _ (zip_keys (Nat.succ.inj h))

theorem Row.exists_zip {code code' : Part → List UInt8 → Prop} : ∀ {ps : List Part} {e : List UInt8},
    Row code ps e → (∀ p ∈ ps, ∀ e, code p e → ∃ w, code' (p.1, w) e) →
    ∃ ws : List Value, ws.length = ps.length ∧ Row code' ((ps.map Prod.fst).zip ws) e
  | _, _, .nil, _ => ⟨[], rfl, .nil⟩
  | _, _, .cons h hr, hp => by
    obtain ⟨w, hw⟩ := hp _ List.mem_cons_self _ h
    obtain ⟨ws, hl, hr⟩ := hr.exists_zip fun p hmem => hp p (List.mem_cons_of_mem _ hmem)
    exact ⟨w :: ws, congrArg Nat.succ hl, .cons hw hr⟩

namespace Codec

variable {c : Codec} {Q : Value → Prop}

/-- The front is that of values of the shape, one for any parts that are put in the place of these. -/
def Refillable (s : Shape) (front : List UInt8) (parts : List Part) : Prop :=
  ∀ ws : List Value, ws.length = parts.length →
    ∃ v, Layout Convention.read.telling s v (.ok front) ((parts.map Prod.fst).zip ws)

section Refillable

variable {x : Value} {f : List UInt8} {ps : List Part}

theorem refillable_leaf {s : Shape} {v : Value} (h : Layout Convention.read.telling s v (.ok f) []) :
    Refillable s f [] :=
  fun _ _ => ⟨v, h⟩

theorem refillable_single {s child : Shape} {x : Value}
    (h : ∀ w, ∃ v, Layout Convention.read.telling s v (.ok f) [(child.key, w)]) : Refillable s f [(child.key, x)] := by
  intro ws hw
  obtain ⟨w, rfl⟩ := List.length_eq_one_iff.1 hw
  exact h w

theorem refillable_items {s child : Shape} {items : List Value}
    (h : ∀ ws : List Value, ws.length = items.length →
      ∃ v, Layout Convention.read.telling s v (.ok f) (ws.map fun w => (child.key, w))) :
    Refillable s f (items.map fun item => (child.key, item)) := by
  intro ws hw
  rw [List.length_map] at hw
  rw [zip_keys hw]
  exact h ws hw

theorem refillable_option {child : Shape} (hb : isBoxed (.option child) = false) (hx : c.Throughout Q x)
    (hd : c.dissect (.option child) x = .ok (f, ps)) :
    (∀ p ∈ ps, c.Throughout Q p.2) ∧ Refillable (.option child) f ps := by
  by_cases hn : x = .null
  · subst hn
    cases (dissect_null hb).symm.trans hd
    exact ⟨fun _ h => (nomatch h), refillable_leaf (.absent hb)⟩
  · cases (dissect_present hb hn).symm.trans hd
    exact ⟨List.forall_mem_singleton.2 hx, refillable_single fun w => ⟨w, .present hb⟩⟩

theorem refillable_box {child : Shape} (hb : isBoxed (.option child) = true) (hx : c.Throughout Q x)
    (hd : c.dissect (.option child) x = .ok (f, ps)) :
    (∀ p ∈ ps, c.Throughout Q p.2) ∧ Refillable (.option child) f ps := by
  obtain ⟨flag, -, hf, hps⟩ := (dissect_box_iff hb).1 hd
  have hf := encode_of_encodePrimitive hf
  -- only a boolean can be written as a flag, so that the front says which of the two it is
  cases flag with
  | boolean b =>
    cases hf
    cases b with
    | false =>
      obtain ⟨-, rfl⟩ | ⟨h, -⟩ := hps
      · exact ⟨fun _ h => (nomatch h), refillable_leaf (.emptyBox hb)⟩
      · cases h
    | true =>
      obtain ⟨h, -⟩ | ⟨-, y, hy, rfl⟩ := hps
      · cases h
      · exact ⟨List.forall_mem_singleton.2 (hx.field hy), refillable_single fun w => ⟨_, .box hb⟩⟩
  | _ => cases hf

theorem refillable_array {child : Shape} {size : Int} (hx : c.Throughout Q x)
    (hd : c.dissect (.array child size) x = .ok (f, ps)) :
    (∀ p ∈ ps, c.Throughout Q p.2) ∧ Refillable (.array child size) f ps := by
  obtain ⟨y, items, hy, hi, hl, rfl, rfl⟩ := dissect_array_iff.1 hd
  refine ⟨List.forall_mem_map.2 fun z hz => (hx.field hy).item hi hz, refillable_items fun ws hw => ?_⟩
  exact ⟨_, .array (by omega)⟩

theorem refillable_struct {key : String} {fields : List (String × Shape)}
    (ho : (structRecord key fields).obstacle? = none) (hx : c.Throughout Q x)
    (hd : c.dissect (.struct key fields) x = .ok (f, ps)) :
    (∀ p ∈ ps, c.Throughout Q p.2) ∧ Refillable (.struct key fields) f ps := by
  obtain ⟨rfl, hps⟩ := dissect_struct_iff.1 hd
  obtain ⟨hkeys, hb⟩ := keys_of_fieldParts hx hps
  refine ⟨hb, fun ws hw => ?_⟩
  have hl : ws.length = fields.length := by rw [hw, ← List.length_map Prod.fst, hkeys, List.length_map]
  rw [hkeys]
  exact ⟨_, .struct ho hl⟩

/-- Numbers may stand for members: the front is then that of the member with the number. -/
theorem refillable_simpleEnum {key : String} {names : List String}
    (hd : c.dissect (.simpleEnum key names) x = .ok (f, ps)) : ps = [] ∧ Refillable (.simpleEnum key names) f ps := by
  obtain ⟨hf, rfl⟩ := dissect_simpleEnum_iff.1 hd
  obtain ⟨t, ht, hf⟩ := bind_eq_ok.1 hf
  obtain ⟨found, hm, hf⟩ := bind_eq_ok.1 hf
  cases found with
  | none => cases hf
  | some m =>
    obtain ⟨name, n, rfl, name', hn⟩ := member?_of_memberAt? (findMember_eq_some.1 hm)
    cases ha : t.hasAttribute "__int__" with
    | true => simp only [ha] at hf; cases hf
    | false =>
      simp only [ha] at hf
      have he : Wire.encode (.integer false .w8) (.integer n) = .ok f := encode_of_encodePrimitive (c := c) hf
      exact ⟨rfl, refillable_leaf (layout_simpleEnum_iff.2
        ⟨t, name', n, mapError_eq_ok.1 ht, ⟨trivial, ha⟩, hn, rfl, he.symm, rfl⟩)⟩

theorem refillable_taggedEnum {key : String} {variants : Variants}
    (ho : (Shape.taggedEnum key variants).IsOpen) (hx : c.Throughout Q x)
    (hd : c.dissect (.taggedEnum key variants) x = .ok (f, ps)) :
    (∀ p ∈ ps, c.Throughout Q p.2) ∧ Refillable (.taggedEnum key variants) f ps := by
  obtain ⟨choice, -, hcheck, hfront, hps⟩ := dissect_taggedEnum_iff.1 hd
  obtain ⟨n, hn, he⟩ := Wire.encode_integer_of_any (encode_of_encodePrimitive hfront)
  obtain ⟨hn0, hlt⟩ := lt_of_checkChoice hn hcheck
  obtain ⟨n, rfl⟩ := Int.eq_ofNat_of_zero_le hn0
  rw [hn, Option.bind_some, Int.toNat_natCast] at hps
  obtain ⟨hkeys, hb⟩ := keys_of_fieldParts hx hps
  refine ⟨hb, fun ws hw => ?_⟩
  have hl : ws.length = (chosen? variants n).toList.length := by
    rw [hw, ← List.length_map Prod.fst, hkeys, List.length_map]
  -- one value stands in the chosen field, and any will do where no field is chosen
  obtain ⟨w, rfl⟩ : ∃ w, ws = (chosen? variants n).toList.map fun _ => w := by
    cases hch : chosen? variants n with
    | none => rw [hch] at hl; exact ⟨.null, List.length_eq_zero_iff.1 hl⟩
    | some chosen => rw [hch] at hl; exact List.length_eq_one_iff.1 hl
  refine ⟨_, layout_taggedEnum_iff.2 ⟨n, w, ho.1, ⟨trivial, ho.2⟩, by omega, rfl, he.symm, ?_⟩⟩
  rw [hkeys]
  cases chosen? variants n <;> rfl

end Refillable

/-- Whatever is taken apart under a shape has the front of a value of the shape, with parts under the same
keys; and any parts will do for a value with the front. -/
theorem exists_layout_of_dissect (hQ : ∀ y, Q y → Wire.isLength y.extent) {s : Shape} {x : Value} {f : List UInt8}
    {ps : List Part} (ho : s.IsOpen) (hflat : s = .primitive .bytes → x.IsFlat) (hx : c.Throughout Q x)
    (hd : c.dissect s x = .ok (f, ps)) : (∀ p ∈ ps, c.Throughout Q p.2) ∧ Refillable s f ps := by
  cases s with
  | primitive p =>
    obtain ⟨hf, rfl⟩ := dissect_primitive_iff.1 hd
    obtain ⟨v, hv, he⟩ := Wire.exists_typed_of_encode (hQ x hx.self) (fun hp => hflat (hp ▸ rfl))
      (encode_of_encodePrimitive hf)
    exact ⟨fun _ h => (nomatch h), refillable_leaf (layout_primitive_iff.2 ⟨hv, he.symm, rfl⟩)⟩
  | reference name => cases hd
  | option child =>
    cases hb : isBoxed (.option child) with
    | false => exact refillable_option hb hx hd
    | true => exact refillable_box hb hx hd
  | sequence child =>
    obtain ⟨items, hi, rfl, rfl⟩ := dissect_sequence_iff.1 hd
    refine ⟨List.forall_mem_map.2 fun y hy => hx.item hi hy, refillable_items fun ws hw => ?_⟩
    have hlength := hQ x hx.self
    rw [extent_of_getItems hi, ← hw] at hlength
    rw [← hw]
    exact ⟨_, .sequence hlength⟩
  | array child size => exact refillable_array hx hd
  | struct key fields => exact refillable_struct ho hx hd
  | simpleEnum key names =>
    obtain ⟨rfl, h⟩ := refillable_simpleEnum hd
    exact ⟨fun _ h => (nomatch h), h⟩
  | taggedEnum key variants => exact refillable_taggedEnum ho hx hd

/-! ## All layers -/

/-- A function that may call others deeper writes the same. -/
theorem Writes.mono : ∀ {depth depth' : Nat} {p : Part} {e : List UInt8}, depth ≤ depth' → Writes c depth p e →
    Writes c depth' p e
  | 0, _, _, _, _, ⟨_, _, h⟩ => nomatch h
  | depth + 1, depth' + 1, p, e, hle, ⟨f, hf, h⟩ => by
    obtain ⟨front, parts, body, hd, hr, rfl⟩ := encodeShape_eq_ok.1 h
    exact ⟨f, hf, encodeShape_eq_ok.2 ⟨_, _, _, hd, hr.imp fun p _ e hw => hw.mono (by omega), rfl⟩⟩

/-- The records of all shapes under which something of the kind can be written can be made and looked into. -/
def Unobstructed (c : Codec) (P : Value → Prop) : Prop :=
  ∀ key s x e, c.table.get? key = some s → P x → c.encode key x = .ok e → s.IsOpen

section Written

variable (hc : c.Sound) (hQ : ∀ y, Q y → Wire.isLength y.extent)
  (hflat : .primitive .bytes ∈ c.table.shapes → ∀ y, Q y → y.IsFlat) (hu : c.Unobstructed (c.Throughout Q))

include hc hQ hflat hu

theorem exists_codes_of_writes : ∀ {depth : Nat} {key : String} {x : Value} {e : List UInt8}, depth ≤ c.depth →
    key ∈ c.table.keys → c.Throughout Q x → Writes c depth (key, x) e →
    ∃ v, Codes Convention.read.telling c.table key v e
  | 0, _, _, _, _, _, _, ⟨_, _, h⟩ => nomatch h
  | depth + 1, key, x, e, hle, hkey, hx, hw => by
    obtain ⟨s, hs⟩ := Table.mem_keys_iff.1 hkey
    have ho := hu key s x e hs hx ((encode_eq_ok hc).2 ⟨hkey, hw.mono hle⟩)
    obtain ⟨f, hf, h⟩ := hw
    cases (hc.function hs).symm.trans hf
    obtain ⟨front, parts, body, hd, hr, rfl⟩ := encodeShape_eq_ok.1 h
    obtain ⟨hmem, rfl⟩ := Table.mem_of_get? hs
    obtain ⟨hparts, hlayout⟩ := exists_layout_of_dissect hQ ho (fun hb => hflat (hb ▸ hmem) x hx.self) hx hd
    have hkeys : ∀ p ∈ parts, p.1 ∈ c.table.keys := fun p hp => by
      obtain ⟨_, hl⟩ := hlayout (parts.map Prod.snd) (List.length_map _)
      have hzip : (parts.map Prod.fst).zip (parts.map Prod.snd) = parts := by
        rw [← List.unzip_fst, ← List.unzip_snd, List.zip_unzip]
      rw [hzip] at hl
      obtain ⟨child, hchild, hkey⟩ := hl.key_mem p hp
      exact hkey ▸ hc.grounded.closed (Table.depends_child hmem hchild)
    obtain ⟨ws, hl, hrow⟩ : ∃ ws : List Value, ws.length = parts.length ∧
        Row (fun p e => Codes Convention.read.telling c.table p.1 p.2 e) ((parts.map Prod.fst).zip ws) body :=
      hr.exists_zip fun p hp e hw => exists_codes_of_writes (by omega) (hkeys p hp) (hparts p hp) hw
    obtain ⟨v, hv⟩ := hlayout ws hl
    exact ⟨v, .mk hs hv hrow⟩

/-- Whatever is written under a key is the code of a value of the key. -/
theorem exists_codes_of_encode {key : String} {x : Value} {e : List UInt8} (hx : c.Throughout Q x)
    (h : c.encode key x = .ok e) : ∃ v, Codes Convention.read.telling c.table key v e := by
  obtain ⟨hkey, hw⟩ := (encode_eq_ok hc).1 h
  exact exists_codes_of_writes hc hQ hflat hu (Nat.le_refl _) hkey hx hw

end Written

end Codec

end SolidityWire
