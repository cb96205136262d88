/-
What encoding writes: one layer of a value at a time, a front and then the parts under their keys. Any
value is taken apart alike, whether it is one of the shape or only has fields and items of the right kind;
on a value of the shape the front and the parts are those of its layer.
-/
import SolidityWire.Codec.Encode
import SolidityWire.Proofs.Codec.Sound
import SolidityWire.Proofs.Codec.Unique

namespace SolidityWire.Codec

open GeneratedType

/-! ## Taking values apart -/

/-- The parts that a value has in its fields. -/
def fieldParts (c : Codec) (v : Value) : List (String × Shape) → Except CodecError (List Part)
  | [] => .ok []
  | (name, child) :: rest => do
    let part ← getField c v (fieldName name)
    return (child.key, part) :: (← fieldParts c v rest)

/-- The front and the parts that are written for a value under a shape. -/
def dissect (c : Codec) (s : Shape) (v : Value) : Except CodecError (List UInt8 × List Part) :=
  match s with
  | .primitive p => do return (← encodePrimitive c p v, [])
  | .reference _ => .error (.misuse .unknownName)
  | .option child =>
    if isBoxed s then do
      let flag ← getField c v "has_value"
      let front ← encodePrimitive c .bool flag
      if flag.isWhole 0 then return (front, [])
      return (front, [(child.key, ← getField c v "value")])
    else
      match v with
      | .null => .ok ([0], [])
      | v => .ok ([1], [(child.key, v)])
  | .sequence child => do
    let items ← getItems v
    return (Length.encode items.length, items.map fun item => (child.key, item))
  | .array child size => do
    let items ← getItems (← getField c v "values")
    if items.length ≠ size then throw (.encode (.wrongArraySize size items.length))
    return ([], items.map fun item => (child.key, item))
  | .struct _ fields => do return ([], ← fieldParts c v fields)
  | .simpleEnum key members => do return (← encodeMember c key members v, [])
  | .taggedEnum key variants => do
    let choice ← getField c v "choice"
    checkChoice c key variants.length v choice
    let front ← encodePrimitive c (.integer false .w64) choice
    return (front, ← fieldParts c v (choice.wholeNumber?.bind fun n => chosen? variants n.toNat).toList)

section Dissect

variable {c : Codec} {v : Value} {front : List UInt8} {parts : List Part}

theorem dissect_primitive_iff {p : Primitive} :
    c.dissect (.primitive p) v = .ok (front, parts) ↔ encodePrimitive c p v = .ok front ∧ parts = [] := by
  simp only [dissect, bind_eq_ok, pure_eq_ok, Prod.mk.injEq]
  constructor
  · rintro ⟨_, h, rfl, rfl⟩; exact ⟨h, rfl⟩
  · rintro ⟨h, rfl⟩; exact ⟨front, h, rfl, rfl⟩

theorem dissect_null {child : Shape} (hb : isBoxed (.option child) = false) :
    c.dissect (.option child) .null = .ok ([0], []) := by
  simp only [dissect, hb]; rfl

theorem dissect_present {child : Shape} (hb : isBoxed (.option child) = false) (hv : v ≠ .null) :
    c.dissect (.option child) v = .ok ([1], [(child.key, v)]) := by
  simp only [dissect, hb]
  cases v with
  | null => exact absurd rfl hv
  | _ => rfl

theorem dissect_box_iff {child : Shape} (hb : isBoxed (.option child) = true) :
    c.dissect (.option child) v = .ok (front, parts) ↔
      ∃ flag, getField c v "has_value" = .ok flag ∧ encodePrimitive c .bool flag = .ok front ∧
        (flag.isWhole 0 = true ∧ parts = [] ∨
          flag.isWhole 0 = false ∧ ∃ x, getField c v "value" = .ok x ∧ parts = [(child.key, x)]) := by
  simp only [dissect, hb, if_true, bind_eq_ok]
  refine exists_congr fun flag => and_congr_right fun _ => ?_
  cases flag.isWhole 0 with
  | true =>
    simp only [if_true, pure_eq_ok, Prod.mk.injEq]
    constructor
    · rintro ⟨_, h, rfl, rfl⟩; exact ⟨h, .inl ⟨trivial, rfl⟩⟩
    · rintro ⟨h, ⟨-, rfl⟩ | ⟨h', -⟩⟩
      · exact ⟨front, h, rfl, rfl⟩
      · cases h'
  | false =>
    simp only [Bool.false_eq_true, if_false, bind_eq_ok, pure_eq_ok, Prod.mk.injEq]
    constructor
    · rintro ⟨_, h, x, hx, rfl, rfl⟩; exact ⟨h, .inr ⟨trivial, x, hx, rfl⟩⟩
    · rintro ⟨h, ⟨h', -⟩ | ⟨-, x, hx, rfl⟩⟩
      · cases h'
      · exact ⟨front, h, x, hx, rfl, rfl⟩

theorem dissect_sequence_iff {child : Shape} :
    c.dissect (.sequence child) v = .ok (front, parts) ↔ ∃ items, getItems v = .ok items ∧
      front = Length.encode items.length ∧ parts = items.map fun item => (child.key, item) := by
  simp only [dissect, bind_eq_ok, pure_eq_ok, Prod.mk.injEq, @eq_comm _ front, @eq_comm _ parts]

theorem dissect_array_iff {child : Shape} {size : Int} :
    c.dissect (.array child size) v = .ok (front, parts) ↔ ∃ x items, getField c v "values" = .ok x ∧
      getItems x = .ok items ∧ (items.length : Int) = size ∧ front = [] ∧
      parts = items.map fun item => (child.key, item) := by
  simp only [dissect, bind_eq_ok, ite_throw_eq_ok, not_not, pure_eq_ok, Prod.mk.injEq, exists_and_left,
    @eq_comm _ _ front, @eq_comm _ _ parts]

theorem dissect_struct_iff {key : String} {fields : List (String × Shape)} :
    c.dissect (.struct key fields) v = .ok (front, parts) ↔ front = [] ∧ fieldParts c v fields = .ok parts := by
  simp only [dissect, bind_eq_ok, pure_eq_ok, Prod.mk.injEq]
  constructor
  · rintro ⟨_, h, rfl, rfl⟩; exact ⟨rfl, h⟩
  · rintro ⟨rfl, h⟩; exact ⟨parts, h, rfl, rfl⟩

theorem dissect_simpleEnum_iff {key : String} {names : List String} :
    c.dissect (.simpleEnum key names) v = .ok (front, parts) ↔
      encodeMember c key names v = .ok front ∧ parts = [] := by
  simp only [dissect, bind_eq_ok, pure_eq_ok, Prod.mk.injEq]
  constructor
  · rintro ⟨_, h, rfl, rfl⟩; exact ⟨h, rfl⟩
  · rintro ⟨h, rfl⟩; exact ⟨front, h, rfl, rfl⟩

theorem dissect_taggedEnum_iff {key : String} {variants : Variants} :
    c.dissect (.taggedEnum key variants) v = .ok (front, parts) ↔ ∃ choice, getField c v "choice" = .ok choice ∧
      checkChoice c key variants.length v choice = .ok () ∧ encodePrimitive c (.integer false .w64) choice = .ok front ∧
      fieldParts c v (choice.wholeNumber?.bind fun n => chosen? variants n.toNat).toList = .ok parts := by
  simp only [dissect, bind_eq_ok, pure_eq_ok, Prod.mk.injEq]
  constructor
  · rintro ⟨choice, hch, _, hcheck, _, hfront, _, hparts, rfl, rfl⟩; exact ⟨choice, hch, hcheck, hfront, hparts⟩
  · rintro ⟨choice, hch, hcheck, hfront, hparts⟩
    exact ⟨choice, hch, (), hcheck, front, hfront, parts, hparts, rfl, rfl⟩

end Dissect

/-! ## Writing them -/

/-- The bytes that the function of a part's key writes for it. -/
def Writes (c : Codec) (depth : Nat) (p : Part) (e : List UInt8) : Prop :=
  ∃ f, c.function p.1 = .ok f ∧ encodeShape c depth f p.2 = .ok e

variable {c : Codec} {depth : Nat}

theorem encodeItems_eq_ok {child : Shape} : ∀ {items : List Value} {e : List UInt8},
    encodeItems (fun item => do encodeShape c depth (← c.function child.key) item) items = .ok e ↔
      Row (Writes c depth) (items.map fun item => (child.key, item)) e
  | [], e => by
    rw [encodeItems, List.map_nil, row_nil_iff, Except.ok.injEq, eq_comm]
  | v :: vs, e => by
    rw [encodeItems, List.map_cons, row_cons_iff]
    simp only [bind_eq_ok, pure_eq_ok, @encodeItems_eq_ok child vs]
    constructor
    · rintro ⟨front, ⟨f, hf, hfront⟩, back, hback, rfl⟩
      exact ⟨front, back, ⟨f, hf, hfront⟩, hback, rfl⟩
    · rintro ⟨front, back, ⟨f, hf, hfront⟩, hback, rfl⟩
      exact ⟨front, ⟨f, hf, hfront⟩, back, hback, rfl⟩

theorem encodeFields_eq_ok {v : Value} : ∀ {fields : List (String × Shape)} {e : List UInt8},
    encodeFields c (encodeShape c depth) v fields = .ok e ↔
      ∃ parts, fieldParts c v fields = .ok parts ∧ Row (Writes c depth) parts e
  | [], e => by
    rw [encodeFields, fieldParts, Except.ok.injEq]
    exact ⟨fun h => ⟨[], rfl, h ▸ .nil⟩, fun ⟨_, hp, hr⟩ => by cases hp; exact (row_nil_iff.1 hr).symm⟩
  | (name, child) :: rest, e => by
    rw [encodeFields, fieldParts]
    simp only [bind_eq_ok, pure_eq_ok, @encodeFields_eq_ok v rest]
    constructor
    · rintro ⟨f, hf, x, hx, front, hfront, back, ⟨parts, hp, hr⟩, rfl⟩
      exact ⟨_, ⟨x, hx, parts, hp, rfl⟩, .cons ⟨f, hf, hfront⟩ hr⟩
    · rintro ⟨_, ⟨x, hx, parts, hp, rfl⟩, hr⟩
      obtain ⟨front, back, ⟨f, hf, hfront⟩, hback, rfl⟩ := row_cons_iff.1 hr
      exact ⟨f, hf, x, hx, front, hfront, back, ⟨parts, hp, hback⟩, rfl⟩

theorem encodePayload_eq (v : Value) (variants : Variants) (choice : Value) :
    encodePayload c (encodeShape c depth) v variants choice =
      encodeFields c (encodeShape c depth) v
        (choice.wholeNumber?.bind fun n => chosen? variants n.toNat).toList := by
  unfold encodePayload chosen?
  rcases choice.wholeNumber? with _ | n
  · rfl
  · simp only [Option.bind_some]
    rcases variants[n.toNat]? with _ | ⟨_, _ | field, _ | child⟩ <;> rfl

theorem encodeShape_box {child : Shape} (hb : isBoxed (.option child) = true) {v : Value} {e : List UInt8} :
    encodeShape c (depth + 1) (.option child) v = .ok e ↔ ∃ front parts body,
      c.dissect (.option child) v = .ok (front, parts) ∧ Row (Writes c depth) parts body ∧ e = front ++ body := by
  simp only [encodeShape, hb, if_true, bind_eq_ok, dissect_box_iff hb]
  constructor
  · rintro ⟨flag, hflag, front, hfront, h⟩
    cases h0 : flag.isWhole 0 with
    | true =>
      rw [h0, if_pos rfl] at h
      cases h
      exact ⟨_, [], [], ⟨flag, hflag, hfront, .inl ⟨h0, rfl⟩⟩, .nil, (List.append_nil _).symm⟩
    | false =>
      simp only [h0, Bool.false_eq_true, if_false, bind_eq_ok, pure_eq_ok] at h
      obtain ⟨f, hf, x, hx, body, hbody, rfl⟩ := h
      exact ⟨front, _, body, ⟨flag, hflag, hfront, .inr ⟨h0, x, hx, rfl⟩⟩, row_singleton_iff.2 ⟨f, hf, hbody⟩, rfl⟩
  · rintro ⟨front, _, body, ⟨flag, hflag, hfront, ⟨h0, rfl⟩ | ⟨h0, x, hx, rfl⟩⟩, hr, rfl⟩
    · refine ⟨flag, hflag, front, hfront, ?_⟩
      rw [h0, if_pos rfl, row_nil_iff.1 hr, List.append_nil]
      rfl
    · obtain ⟨f, hf, hbody⟩ := row_singleton_iff.1 hr
      refine ⟨flag, hflag, front, hfront, ?_⟩
      simp only [h0, Bool.false_eq_true, if_false, bind_eq_ok, pure_eq_ok]
      exact ⟨f, hf, x, hx, body, hbody, rfl⟩

theorem encodeShape_option {child : Shape} (hb : isBoxed (.option child) = false) {v : Value} {e : List UInt8} :
    encodeShape c (depth + 1) (.option child) v = .ok e ↔ ∃ front parts body,
      c.dissect (.option child) v = .ok (front, parts) ∧ Row (Writes c depth) parts body ∧ e = front ++ body := by
  by_cases hv : v = .null
  · subst hv
    have hw : encodeShape c (depth + 1) (.option child) .null = .ok [0] := by simp only [encodeShape, hb]; rfl
    simp only [hw, dissect_null hb, Except.ok.injEq, Prod.mk.injEq]
    constructor
    · rintro rfl; exact ⟨[0], [], [], ⟨rfl, rfl⟩, .nil, rfl⟩
    · rintro ⟨_, _, body, ⟨rfl, rfl⟩, hr, rfl⟩
      rw [row_nil_iff.1 hr]; rfl
  · have hw : encodeShape c (depth + 1) (.option child) v = (do
        let f ← c.function child.key
        return 1 :: (← encodeShape c depth f v)) := by
      simp only [encodeShape, hb]
      cases v with
      | null => exact absurd rfl hv
      | _ => rfl
    simp only [hw, dissect_present hb hv, bind_eq_ok, pure_eq_ok, Except.ok.injEq, Prod.mk.injEq]
    constructor
    · rintro ⟨f, hf, body, hbody, rfl⟩
      exact ⟨_, _, body, ⟨rfl, rfl⟩, row_singleton_iff.2 ⟨f, hf, hbody⟩, rfl⟩
    · rintro ⟨_, _, body, ⟨rfl, rfl⟩, hr, rfl⟩
      obtain ⟨f, hf, hbody⟩ := row_singleton_iff.1 hr
      exact ⟨f, hf, body, hbody, rfl⟩

/-- One layer is written: the front, and then each part under its key. -/
theorem encodeShape_eq_ok {s : Shape} {v : Value} {e : List UInt8} :
    encodeShape c (depth + 1) s v = .ok e ↔
      ∃ front parts body, c.dissect s v = .ok (front, parts) ∧ Row (Writes c depth) parts body ∧ e = front ++ body := by
  cases s with
  | primitive p =>
    simp only [encodeShape, dissect_primitive_iff]
    constructor
    · intro h; exact ⟨e, [], [], ⟨h, rfl⟩, .nil, (List.append_nil e).symm⟩
    · rintro ⟨front, _, body, ⟨h, rfl⟩, hr, rfl⟩
      rwa [row_nil_iff.1 hr, List.append_nil]
  | reference name =>
    constructor
    · intro h; cases h
    · rintro ⟨_, _, _, h, -⟩; cases h
  | option child =>
    cases hb : isBoxed (.option child) with
    | false => exact encodeShape_option hb
    | true => exact encodeShape_box hb
  | sequence child =>
    simp only [encodeShape, bind_eq_ok, pure_eq_ok, dissect_sequence_iff]
    constructor
    · rintro ⟨items, hi, body, hb, rfl⟩
      exact ⟨_, _, body, ⟨items, hi, rfl, rfl⟩, encodeItems_eq_ok.1 (by simpa only [bind_eq_ok] using hb), rfl⟩
    · rintro ⟨_, _, body, ⟨items, hi, rfl, rfl⟩, hr, rfl⟩
      exact ⟨items, hi, body, encodeItems_eq_ok.2 hr, rfl⟩
  | array child size =>
    simp only [encodeShape, bind_eq_ok, ite_throw_eq_ok, not_not, dissect_array_iff]
    constructor
    · rintro ⟨x, hx, items, hi, hl, h⟩
      exact ⟨[], _, e, ⟨x, items, hx, hi, hl, rfl, rfl⟩, encodeItems_eq_ok.1 h, rfl⟩
    · rintro ⟨_, _, body, ⟨x, items, hx, hi, hl, rfl, rfl⟩, hr, rfl⟩
      exact ⟨x, hx, items, hi, hl, encodeItems_eq_ok.2 hr⟩
  | struct key fields =>
    simp only [encodeShape, dissect_struct_iff, encodeFields_eq_ok]
    constructor
    · rintro ⟨parts, hp, hr⟩; exact ⟨[], parts, e, ⟨rfl, hp⟩, hr, rfl⟩
    · rintro ⟨_, parts, body, ⟨rfl, hp⟩, hr, rfl⟩; exact ⟨parts, hp, hr⟩
  | simpleEnum key members =>
    simp only [encodeShape, dissect_simpleEnum_iff]
    constructor
    · intro h; exact ⟨e, [], [], ⟨h, rfl⟩, .nil, (List.append_nil e).symm⟩
    · rintro ⟨front, _, body, ⟨h, rfl⟩, hr, rfl⟩
      rwa [row_nil_iff.1 hr, List.append_nil]
  | taggedEnum key variants =>
    simp only [encodeShape, bind_eq_ok, pure_eq_ok, encodePayload_eq, encodeFields_eq_ok, dissect_taggedEnum_iff]
    constructor
    · rintro ⟨choice, hch, _, hcheck, front, hfront, body, ⟨parts, hp, hr⟩, rfl⟩
      exact ⟨front, parts, body, ⟨choice, hch, hcheck, hfront, hp⟩, hr, rfl⟩
    · rintro ⟨front, parts, body, ⟨choice, hch, hcheck, hfront, hp⟩, hr, rfl⟩
      exact ⟨choice, hch, (), hcheck, front, hfront, body, ⟨parts, hp, hr⟩, rfl⟩

/-! ## Values of the shape -/

theorem getField_record {key name : String} {entries : List (String × Value)} {shades : Bool} {v : Value}
    (ho : (Value.record key entries shades).isSealed = false) (hn : (entries.map Prod.fst).Nodup)
    (h : (name, v) ∈ entries) : getField c (.record key entries shades) name = .ok v := by
  simp only [getField, fieldOf, ho, Value.field?, lookup_of_mem hn h]
  rfl

/-- No field of a sealed value can be read. -/
theorem getField_of_isSealed {v : Value} (h : v.isSealed = true) (name : String) :
    getField c v name = .error (.misuse .wrongType) := by
  unfold getField fieldOf
  rw [if_pos h]
  rfl

/-- Tagged records are sealed if their type is. -/
theorem isSealed_tagged (key : String) (variants : Variants) (absent : String → Value) (chosen : Option String)
    (choice v : Value) :
    (Value.record key (("choice", choice) :: payloadEntries absent variants chosen v) true).isSealed =
      (taggedRecord key variants).isSealed := by
  have hnames : (taggedRecord key variants).names = "choice" :: (Shape.payloadFields variants).map fieldName := by
    rw [RecordType.names, taggedRecord, List.map_cons, List.map_map]; rfl
  have hown : (taggedRecord key variants).hasOwnDefaults = true := rfl
  rw [Bool.eq_iff_iff, Value.isSealed, Value.lacks_record_iff, List.map_cons, payloadEntries_map_fst,
    RecordType.isSealed, hown, RecordType.hasField, hnames]
  simp

theorem fieldParts_of_getField {r : Value} : ∀ {fields : List (String × Shape)} {vs : List Value},
    vs.length = fields.length →
    (∀ p ∈ (fields.map fun field => fieldName field.1).zip vs, getField c r p.1 = .ok p.2) →
    fieldParts c r fields = .ok ((fields.map fun field => field.2.key).zip vs)
  | [], _, _, _ => rfl
  | (name, child) :: rest, v :: vs, hl, h => by
    rw [fieldParts, h (fieldName name, v) List.mem_cons_self,
      fieldParts_of_getField (Nat.succ.inj hl) fun p hp => h p (List.mem_cons_of_mem _ hp)]
    rfl

theorem encodePrimitive_eq_ok {admits : Nat → Prop} {p : Primitive} {v : Value} (h : Wire.Typed admits p v)
    {e : List UInt8} : encodePrimitive c p v = .ok e ↔ Wire.encode p v = .ok e := by
  cases h with
  | integer signed width n => cases width <;> exact mapError_eq_ok
  | _ => unfold encodePrimitive; exact mapError_eq_ok

theorem checkChoice_of_lt {key : String} {count n : Nat} (h : n < count) (v : Value) :
    checkChoice c key count v (.integer n) = .ok () := by
  have hlower : compare (n : Int) 0 = .eq ∨ compare (n : Int) 0 = .gt := by
    rw [Int.compare_eq_eq, Int.compare_eq_gt]; omega
  have hupper : compare (n : Int) count = .lt := by rw [Int.compare_eq_lt]; omega
  simp only [checkChoice, Value.compareWhole?, Value.wholeNumber?, Option.map_some, Option.some.injEq, hlower, hupper,
    and_self, if_true]

theorem isWhole_member {key name : String} {n i : Nat} : (Value.member key name n).isWhole i = decide (i = n) := by
  have h : compare (n : Int) i = .eq ↔ i = n := by rw [Int.compare_eq_eq]; omega
  simp only [Value.isWhole, Value.compareWhole?, Value.wholeNumber?, Option.map_some]
  rw [Bool.eq_iff_iff, beq_iff_eq, decide_eq_true_iff, Option.some.injEq, Option.some.injEq, h]

theorem memberAt?_member {key name : String} {t : EnumType} {n : Nat} (h : t.member? n = some name) :
    memberAt? key t (.member key name n) = some (.member key name n) := by
  obtain ⟨⟨name', n'⟩, hf, rfl⟩ := Option.map_eq_some_iff.1 h
  have hn : n' = n := of_decide_eq_true (List.find?_some (p := fun x : String × Nat => decide (x.2 = n)) hf)
  subst hn
  simp only [memberAt?, isWhole_member, hf, Option.map_some]

/-- Only numbers are equal to members, and these can be compared. -/
theorem findMember_eq_some {key : String} {t : EnumType} {v m : Value} :
    findMember key t v = .ok (some m) ↔ memberAt? key t v = some m := by
  unfold findMember
  rw [ite_error_eq_ok, Except.ok.injEq]
  refine and_iff_right_of_imp fun h => ?_
  cases v with
  | record key' fields shades =>
    obtain ⟨p, hfind, -⟩ := Option.map_eq_some_iff.1 h
    exact absurd (List.find?_some hfind) Bool.false_ne_true
  | _ => simp [Value.isSealed, Value.lacks]

theorem encodeMember_eq_ok {key name : String} {names : List String} {t : EnumType} {n : Nat}
    (ht : EnumType.ofNames (Text.asciiName key) names = .ok t) (hn : t.member? n = some name) {e : List UInt8} :
    encodeMember c key names (.member key name n) = .ok e ↔
      t.hasAttribute "__int__" = false ∧ Wire.encode (.integer false .w8) (.integer n) = .ok e := by
  have hp : Wire.Typed (fun _ => True) (.integer false .w8) (.integer n) := .integer _ _ _
  unfold encodeMember
  simp only [ht, mapError_ok, ok_bind, findMember_eq_some.2 (memberAt?_member hn)]
  cases ha : t.hasAttribute "__int__" with
  | true =>
    constructor
    · intro h; cases h
    · rintro ⟨h, -⟩; cases h
  | false => exact (encodePrimitive_eq_ok (c := c) hp).trans (and_iff_right rfl).symm

section Layers

variable {k : Convention}

/-- A value that is taken apart as its layer is taken apart in no other way. -/
theorem dissect_eq_ok_of_eq {s : Shape} {v : Value} {front : List UInt8} {parts : List Part}
    (hl : Layout k.telling s v (.ok front) parts) (hd : c.dissect s v = .ok (front, parts)) {f : List UInt8}
    {ps : List Part} :
    c.dissect s v = .ok (f, ps) ↔
      Layout k.telling s v (.ok front) parts ∧ (.ok front : Except EncodeError (List UInt8)) = .ok f ∧ ps = parts := by
  rw [hd]
  constructor
  · intro h; cases h; exact ⟨hl, rfl, rfl⟩
  · rintro ⟨-, hf, rfl⟩; cases hf; rfl

theorem dissect_array {child : Shape} {size : Int} {vs : List Value} (hl : vs.length = size) :
    c.dissect (.array child size) (.record (Shape.array child size).key [("values", .list vs)]) =
      .ok ([], vs.map fun v => (child.key, v)) :=
  dissect_array_iff.2 ⟨.list vs, vs, rfl, rfl, hl, rfl, rfl⟩

theorem dissect_struct {key : String} {fields : List (String × Shape)} (hs : (Shape.struct key fields).Made)
    {vs : List Value} (hl : vs.length = fields.length) :
    c.dissect (.struct key fields) (.record key ((fields.map fun field => fieldName field.1).zip vs)) =
      .ok ([], (fields.map fun field => field.2.key).zip vs) := by
  have hfst : ((fields.map fun field => fieldName field.1).zip vs).map Prod.fst =
      fields.map fun field => fieldName field.1 := List.map_fst_zip (by rw [List.length_map, hl])
  have hnodup := hs.struct_nodup
  rw [← hfst] at hnodup
  exact dissect_struct_iff.2 ⟨rfl, fieldParts_of_getField hl fun p hp => getField_record rfl hnodup hp⟩

theorem dissect_simpleEnum_member {key name : String} {names : List String} {t : EnumType} {n : Nat}
    (ht : EnumType.ofNames (Text.asciiName key) names = .ok t) (hk : k.enumerates t) (hn : t.member? n = some name)
    {f : List UInt8} {ps : List Part} :
    c.dissect (.simpleEnum key names) (.member key name n) = .ok (f, ps) ↔
      Layout k.telling (.simpleEnum key names) (.member key name n) (Wire.encode (.integer false .w8) (.integer n)) [] ∧
        Wire.encode (.integer false .w8) (.integer n) = .ok f ∧ ps = [] := by
  rw [dissect_simpleEnum_iff, encodeMember_eq_ok ht hn]
  constructor
  · rintro ⟨⟨ha, he⟩, rfl⟩; exact ⟨.simpleEnum ht ⟨hk, ha⟩ hn, he, rfl⟩
  · rintro ⟨hl, he, rfl⟩
    obtain ⟨t', _, _, ht', ⟨-, ha⟩, -⟩ := layout_simpleEnum_iff.1 hl
    cases ht.symm.trans ht'
    exact ⟨⟨ha, he⟩, rfl⟩

/-- A tagged record is taken apart into the number of its choice and what the chosen field holds, if its fields
can be read. -/
theorem dissect_taggedEnum_record {key : String} {variants : Variants} (hs : (Shape.taggedEnum key variants).Made)
    {n : Nat} (hn : n < variants.length) {absent : String → Value} {v : Value} {f : List UInt8} {ps : List Part} :
    c.dissect (.taggedEnum key variants) (.record key (("choice", .integer n) ::
        payloadEntries absent variants ((chosen? variants n).map Prod.fst) v) true) = .ok (f, ps) ↔
      (taggedRecord key variants).isSealed = false ∧ Wire.encode (.integer false .w64) (.integer n) = .ok f ∧
        ps = (chosen? variants n).toList.map fun chosen => (chosen.2.key, v) := by
  have hp : Wire.Typed (fun _ => True) (.integer false .w64) (.integer n) := .integer _ _ _
  have hsealed := isSealed_tagged key variants absent ((chosen? variants n).map Prod.fst) (.integer n) v
  rw [dissect_taggedEnum_iff]
  cases ho : (taggedRecord key variants).isSealed with
  | true =>
    rw [ho] at hsealed
    rw [getField_of_isSealed hsealed]
    simp
  | false =>
    rw [ho] at hsealed
    have hnodup : ((("choice", Value.integer n) ::
        payloadEntries absent variants ((chosen? variants n).map Prod.fst) v).map Prod.fst).Nodup := by
      rw [List.map_cons, payloadEntries_map_fst]
      exact hs.tagged_nodup
    have hchoice : getField c _ "choice" = .ok (.integer n) := getField_record hsealed hnodup List.mem_cons_self
    have hparts : fieldParts c (.record key (("choice", .integer n) ::
        payloadEntries absent variants ((chosen? variants n).map Prod.fst) v) true) (chosen? variants n).toList =
        .ok ((chosen? variants n).toList.map fun chosen => (chosen.2.key, v)) := by
      cases hch : chosen? variants n with
      | none => rfl
      | some chosen =>
        have hmem := @mem_payloadEntries absent _ _ _ _ hch v
        rw [hch] at hsealed hnodup hmem
        exact @fieldParts_of_getField c _ [chosen] [v] rfl
          (List.forall_mem_singleton.2 (getField_record hsealed hnodup (List.mem_cons_of_mem _ hmem)))
    constructor
    · rintro ⟨choice, hch, -, he, hps⟩
      cases hchoice.symm.trans hch
      cases hparts.symm.trans hps
      exact ⟨rfl, (encodePrimitive_eq_ok hp).1 he, rfl⟩
    · rintro ⟨-, he, rfl⟩
      exact ⟨_, hchoice, checkChoice_of_lt hn _, (encodePrimitive_eq_ok hp).2 he, hparts⟩

/-- A layer of a tagged record is one whose fields can be read exactly if its type is not sealed. -/
theorem layout_telling_taggedEnum {k : Convention} {key : String} {variants : Variants} {v : Value}
    {front : Except EncodeError (List UInt8)} {parts : List Part}
    (h : Layout k (.taggedEnum key variants) v front parts) :
    Layout k.telling (.taggedEnum key variants) v front parts ↔ (taggedRecord key variants).isSealed = false := by
  obtain ⟨n, x, ho, hk, hn, hv, hf, hp⟩ := layout_taggedEnum_iff.1 h
  constructor
  · intro h'
    obtain ⟨_, _, _, ⟨-, hsealed⟩, -⟩ := layout_taggedEnum_iff.1 h'
    exact hsealed
  · exact fun hsealed => layout_taggedEnum_iff.2 ⟨n, x, ho, ⟨hk, hsealed⟩, hn, hv, hf, hp⟩

/-- A value of the shape is taken apart into the front and the parts of its layer. -/
theorem dissect_eq_ok {s : Shape} {v : Value} {front : Except EncodeError (List UInt8)} {parts : List Part}
    (hs : s.Made) (h : Layout k s v front parts) (hm : s.Marks parts) {f : List UInt8} {ps : List Part} :
    c.dissect s v = .ok (f, ps) ↔ Layout k.telling s v front parts ∧ front = .ok f ∧ ps = parts := by
  cases h with
  | primitive ht =>
    rw [dissect_primitive_iff, encodePrimitive_eq_ok ht]
    exact (and_iff_right (.primitive ht)).symm
  | absent hb => exact dissect_eq_ok_of_eq (.absent hb) (dissect_null hb)
  | @present child v hb =>
    -- a null that is marked as present would be taken apart as an absent option
    have hv : v ≠ .null := hm child rfl hb _ List.mem_cons_self
    exact dissect_eq_ok_of_eq (.present hb) (dissect_present hb hv)
  | emptyBox hb =>
    exact dissect_eq_ok_of_eq (.emptyBox hb) ((dissect_box_iff hb).2 ⟨.boolean false, rfl, rfl, .inl ⟨rfl, rfl⟩⟩)
  | @box child v hb =>
    exact dissect_eq_ok_of_eq (.box hb)
      ((dissect_box_iff hb).2 ⟨.boolean true, rfl, rfl, .inr ⟨rfl, v, rfl, rfl⟩⟩)
  | @sequence child vs hl =>
    exact dissect_eq_ok_of_eq (.sequence hl) (dissect_sequence_iff.2 ⟨vs, rfl, rfl, rfl⟩)
  | array hl => exact dissect_eq_ok_of_eq (.array hl) (dissect_array hl)
  | struct ho hl => exact dissect_eq_ok_of_eq (.struct ho hl) (dissect_struct hs hl)
  | simpleEnum ht hk hn => exact dissect_simpleEnum_member ht hk hn
  | taggedEnum ho hk hn => rw [dissect_taggedEnum_record hs hn, layout_telling_taggedEnum (.taggedEnum ho hk hn)]

end Layers

/-! ## All layers -/

variable {k : Convention} {key : String} {v : Value} {e : List UInt8}

/-- However a value of the shape is taken apart, it is as one of the shape. -/
theorem layout_of_dissect {s : Shape} {front : Except EncodeError (List UInt8)} {parts : List Part} (hs : s.Made)
    (h : Layout k s v front parts) {f : List UInt8} {ps : List Part} (hd : c.dissect s v = .ok (f, ps)) :
    Layout k.telling s v (.ok f) ps ∧ ps ⊆ parts := by
  by_cases hm : s.Marks parts
  · obtain ⟨hl, rfl, rfl⟩ := (dissect_eq_ok hs h hm).1 hd
    exact ⟨hl, List.Subset.refl _⟩
  · -- a null that is marked as present is written as if it were absent
    unfold Shape.Marks at hm
    push Not at hm
    obtain ⟨child, rfl, hb, p, hp, hnull⟩ := hm
    rcases (layout_option_iff hb).1 h with ⟨-, -, rfl⟩ | ⟨-, rfl⟩
    · cases hp
    · cases List.mem_singleton.1 hp
      cases hnull
      simp only [dissect, hb] at hd
      cases hd
      exact ⟨.absent hb, List.nil_subset _⟩

theorem codes_of_writes (hc : c.Sound) : ∀ {depth : Nat} {key : String} {v : Value} {e : List UInt8},
    Typed k c.table key v → Writes c depth (key, v) e → Codes k.telling c.table key v e
  | 0, _, _, _, _, ⟨_, _, h⟩ => nomatch h
  | depth + 1, key, v, e, .mk hs hl hparts, ⟨f, hf, h⟩ => by
    cases (hc.function hs).symm.trans hf
    obtain ⟨front, parts, body, hd, hr, rfl⟩ := encodeShape_eq_ok.1 h
    obtain ⟨hl', hsub⟩ := layout_of_dissect (hc.made _ (Table.mem_of_get? hs).1) hl hd
    exact .mk hs hl' (hr.imp fun p hp e hw => codes_of_writes hc (hparts p (hsub hp)) hw)

theorem writes_of_codes (hc : c.Sound) (ht : c.table.Definite) (h : Codes k.telling c.table key v e) :
    ∀ depth, c.table.rank key < depth → Writes c depth (key, v) e := by
  refine Codes.induct (fun hs hl hr => ?_) h
  intro depth hd
  obtain ⟨depth, rfl⟩ : ∃ d, depth = d + 1 := ⟨depth - 1, by omega⟩
  obtain ⟨hmem, rfl⟩ := Table.mem_of_get? hs
  have hparts := fun p hp => (hr.exists_of_mem p hp).choose_spec.1.typed
  have hlayer := (dissect_eq_ok (c := c) (hc.made _ hmem) (hl.mono k.telling_le) (ht.marks hs hl hparts)).2 ⟨hl, rfl, rfl⟩
  refine ⟨_, hc.function hs, encodeShape_eq_ok.2 ⟨_, _, _, hlayer, hr.imp fun p hp e hw => hw.2 depth ?_, rfl⟩⟩
  obtain ⟨child, hchild, hkey⟩ := hl.key_mem p hp
  have hrank := hc.grounded.rank_lt (Table.depends_child hmem hchild)
  rw [hkey] at hrank
  omega

theorem encode_eq_ok (hc : c.Sound) : c.encode key v = .ok e ↔ key ∈ c.table.keys ∧ Writes c c.depth (key, v) e := by
  unfold encode Writes
  simp only [bind_eq_ok, hc.entry_eq_ok, Table.mem_keys_iff]
  constructor
  · rintro ⟨s, hs, h⟩; exact ⟨⟨s, hs⟩, s, hc.function hs, h⟩
  · rintro ⟨⟨s, hs⟩, f, hf, h⟩
    cases (hc.function hs).symm.trans hf
    exact ⟨s, hs, h⟩

/-- What is written for a value of a key is its code. -/
theorem codes_of_encode (hc : c.Sound) (hv : Typed k c.table key v) (h : c.encode key v = .ok e) :
    Codes k.telling c.table key v e :=
  codes_of_writes hc hv ((encode_eq_ok hc).1 h).2

/-- The code of a value is written for it, where options are told apart from what they hold. -/
theorem encode_of_codes (hc : c.Sound) (ht : c.table.Definite) (h : Codes k.telling c.table key v e) :
    c.encode key v = .ok e := by
  obtain ⟨s, hs⟩ : ∃ s, c.table.get? key = some s := by cases h with | mk hs _ _ => exact ⟨_, hs⟩
  have hd := hc.rank_lt_depth hs
  exact (encode_eq_ok hc).2 ⟨Table.mem_keys_iff.2 ⟨s, hs⟩, writes_of_codes hc ht h _ (by omega)⟩

/-- A value with a code is written as its code exactly if its members tell their ordinals. -/
theorem encode_eq_ok_iff_typed (hc : c.Sound) (ht : c.table.Definite) (h : Codes k c.table key v e) :
    c.encode key v = .ok e ↔ Typed k.telling c.table key v :=
  ⟨fun he => (codes_of_encode hc h.typed he).typed, fun hv => encode_of_codes hc ht (h.restrict ht hv)⟩

end SolidityWire.Codec
