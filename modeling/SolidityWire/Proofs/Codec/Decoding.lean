/-
What decoding accepts: exactly the codes of the values that are read, under every key of the table and
wherever the bytes stand. One layer of a shape is taken off at a time; the induction is on the rank of the
key, and the depth that is left is enough for twice the rank.
-/
import SolidityWire.Codec.Decode
import SolidityWire.Proofs.Codec.Layout
import SolidityWire.Proofs.Codec.Sound

namespace SolidityWire.Codec

open GeneratedType Cursor

/-- Where the function succeeds comes a code of its result, and it goes past it. -/
def Takes {α : Type} (decode : Cursor → Except CodecError (α × Cursor)) (code : α → List UInt8 → Prop) : Prop :=
  ∀ {cur a cur'}, decode cur = .ok (a, cur') → ∃ e, code a e ∧ Past cur e cur'

/-- The function succeeds exactly where a code of its result comes, and goes past it. -/
def Accepts {α : Type} (decode : Cursor → Except CodecError (α × Cursor)) (code : α → List UInt8 → Prop) : Prop :=
  ∀ cur a cur', decode cur = .ok (a, cur') ↔ ∃ e, code a e ∧ Past cur e cur'

theorem Accepts.takes {α : Type} {decode : Cursor → Except CodecError (α × Cursor)} {code : α → List UInt8 → Prop}
    (h : Accepts decode code) : Takes decode code :=
  fun hd => (h _ _ _).1 hd

/-! ## Parts in a row -/

theorem read_eq_ok {α : Type} {d : Decoder α} {cur cur' : Cursor} {a : α} :
    read d cur = .ok (a, cur') ↔ d cur = (.ok a, cur') := by
  unfold read
  rcases d cur with ⟨_ | a', cur''⟩ <;> simp

theorem read_accepts {α : Type} {d : Decoder α} {code : α → List UInt8 → Prop} (hd : d.Accepts code) :
    Accepts (read d) code := by
  intro cur a cur'
  rw [read_eq_ok, hd cur a cur']

section Items

variable {decode : Cursor → Decoded} {code : Value → List UInt8 → Prop}

theorem takes_items (hd : Takes decode code) : ∀ {count : Nat} {done items : List Value} {cur cur' : Cursor},
    decodeItems decode count done cur = .ok (items, cur') →
      ∃ vs e, items = done.reverse ++ vs ∧ vs.length = count ∧ Row code vs e ∧ Past cur e cur'
  | 0, done, _, _, _, h => by
    cases h
    exact ⟨[], [], (List.append_nil _).symm, rfl, .nil, .nil _⟩
  | count + 1, done, items, cur, cur'', h => by
    obtain ⟨⟨v, cur'⟩, hv, h⟩ := bind_eq_ok.1 h
    obtain ⟨front, hfront, hpast⟩ := hd hv
    obtain ⟨vs, back, rfl, hlength, hrow, hpast'⟩ := takes_items hd h
    exact ⟨v :: vs, front ++ back, by simp, congrArg (· + 1) hlength, .cons hfront hrow,
      past_append_iff.2 ⟨cur', hpast, hpast'⟩⟩

theorem decodeItems_eq_ok (hd : Accepts decode code) {count : Nat} {done items : List Value} {cur cur' : Cursor} :
    decodeItems decode count done cur = .ok (items, cur') ↔
      ∃ vs e, items = done.reverse ++ vs ∧ vs.length = count ∧ Row code vs e ∧ Past cur e cur' := by
  refine ⟨takes_items hd.takes, ?_⟩
  rintro ⟨vs, e, rfl, rfl, hr, hp⟩
  induction hr generalizing done cur with
  | nil =>
    rw [past_nil_iff.1 hp, List.append_nil]
    rfl
  | cons hv hr ih =>
    obtain ⟨cur1, hp, hp'⟩ := past_append_iff.1 hp
    rw [List.length_cons, decodeItems, (hd _ _ _).2 ⟨_, hv, hp⟩, ok_bind]
    dsimp only
    rw [ih hp', List.reverse_cons, List.append_assoc]
    rfl

end Items

variable {c : Codec} {decode : Shape → Cursor → Decoded} {code : Part → List UInt8 → Prop}

/-- If the key of the shape calls a function, that takes the codes of parts under the key. -/
def CallTakes (c : Codec) (decode : Shape → Cursor → Decoded) (code : Part → List UInt8 → Prop) (child : Shape) :
    Prop :=
  ∀ {f}, c.function child.key = .ok f → Takes (decode f) fun v e => code (child.key, v) e

/-- The key of the shape calls a function that accepts the codes of parts under the key. -/
def CallAccepts (c : Codec) (decode : Shape → Cursor → Decoded) (code : Part → List UInt8 → Prop) (child : Shape) :
    Prop :=
  ∃ f, c.function child.key = .ok f ∧ Accepts (decode f) fun v e => code (child.key, v) e

theorem CallAccepts.takes {child : Shape} (h : CallAccepts c decode code child) : CallTakes c decode code child := by
  obtain ⟨f, hf, ha⟩ := h
  intro f' hf'
  cases hf.symm.trans hf'
  exact ha.takes

theorem takes_fields : ∀ {fields : List (String × Shape)}, (∀ field ∈ fields, CallTakes c decode code field.2) →
    Takes (decodeFields c decode fields) fun entries e => ∃ vs, vs.length = fields.length ∧
      entries = (fields.map fun field => fieldName field.1).zip vs ∧
      Row code ((fields.map fun field => field.2.key).zip vs) e
  | [], _, _, _, _, h => by
    cases h
    exact ⟨[], ⟨[], rfl, rfl, .nil⟩, .nil _⟩
  | (name, child) :: rest, hd, _, _, _, h => by
    obtain ⟨f, hf, h⟩ := bind_eq_ok.1 h
    obtain ⟨⟨v, cur'⟩, hv, h⟩ := bind_eq_ok.1 h
    obtain ⟨⟨entries, cur''⟩, hrest, h⟩ := bind_eq_ok.1 h
    cases h
    obtain ⟨front, hfront, hpast⟩ := hd _ List.mem_cons_self hf hv
    obtain ⟨back, ⟨vs, hlength, rfl, hrow⟩, hpast'⟩ :=
      takes_fields (fun field hfield => hd field (List.mem_cons_of_mem _ hfield)) hrest
    exact ⟨front ++ back, ⟨v :: vs, congrArg (· + 1) hlength, rfl, .cons hfront hrow⟩,
      past_append_iff.2 ⟨cur', hpast, hpast'⟩⟩

theorem decodeFields_accepts {fields : List (String × Shape)}
    (h : ∀ field ∈ fields, CallAccepts c decode code field.2) :
    Accepts (decodeFields c decode fields) fun entries e => ∃ vs, vs.length = fields.length ∧
      entries = (fields.map fun field => fieldName field.1).zip vs ∧
      Row code ((fields.map fun field => field.2.key).zip vs) e := by
  intro cur entries cur'
  refine ⟨takes_fields fun field hfield => (h field hfield).takes, ?_⟩
  rintro ⟨e, ⟨vs, hl, rfl, hr⟩, hp⟩
  induction fields generalizing vs e cur with
  | nil =>
    rw [List.map_nil, List.zip_nil_left, row_nil_iff] at hr
    subst hr
    rw [past_nil_iff.1 hp]
    rfl
  | cons field rest ih =>
    obtain ⟨f, hf, ha⟩ := h _ List.mem_cons_self
    cases vs with
    | nil => cases hl
    | cons v vs =>
      cases hr with
      | cons hv hr =>
        obtain ⟨cur1, hp, hp'⟩ := past_append_iff.1 hp
        have hrest := ih (fun field hfield => h field (List.mem_cons_of_mem _ hfield)) _ _ hp' vs (Nat.succ.inj hl) hr
        rw [decodeFields, hf, ok_bind, (ha _ _ _).2 ⟨_, hv, hp⟩, ok_bind]
        dsimp only
        rw [hrest]
        rfl

theorem decodePayload_eq (c : Codec) (decode : Shape → Cursor → Decoded) (variants : Variants) (n : Nat)
    (cur : Cursor) : decodePayload c decode variants n cur =
      match chosen? variants n with
      | some chosen => decodeFields c decode [chosen] cur
      | none => .ok ([], cur) := by
  unfold decodePayload chosen?
  rcases variants[n]? with _ | ⟨_, _ | field, _ | child⟩ <;> rfl

theorem takes_payload {variants : Variants} {n : Nat}
    (h : ∀ chosen ∈ chosen? variants n, CallTakes c decode code chosen.2) :
    Takes (decodePayload c decode variants n) fun entries e => ∃ v,
      entries = ((chosen? variants n).toList.map fun chosen => (fieldName chosen.1, v)) ∧
      Row code ((chosen? variants n).toList.map fun chosen => (chosen.2.key, v)) e := by
  intro cur entries cur' he
  rw [decodePayload_eq] at he
  cases hch : chosen? variants n with
  | none =>
    rw [hch] at he
    cases he
    exact ⟨[], ⟨.null, rfl, .nil⟩, .nil _⟩
  | some chosen =>
    rw [hch] at he
    obtain ⟨e, ⟨vs, hl, rfl, hr⟩, hp⟩ := takes_fields (List.forall_mem_singleton.2 (h chosen hch)) he
    obtain ⟨v, rfl⟩ := List.length_eq_one_iff.1 hl
    exact ⟨e, ⟨v, rfl, hr⟩, hp⟩

theorem decodePayload_accepts {variants : Variants} {n : Nat}
    (h : ∀ chosen ∈ chosen? variants n, CallAccepts c decode code chosen.2) :
    Accepts (decodePayload c decode variants n) fun entries e => ∃ v,
      entries = ((chosen? variants n).toList.map fun chosen => (fieldName chosen.1, v)) ∧
      Row code ((chosen? variants n).toList.map fun chosen => (chosen.2.key, v)) e := by
  intro cur entries cur'
  refine ⟨takes_payload fun chosen hch => (h chosen hch).takes, ?_⟩
  rintro ⟨e, ⟨v, rfl, hr⟩, hp⟩
  rw [decodePayload_eq]
  cases hch : chosen? variants n with
  | none =>
    rw [hch, Option.toList_none, List.map_nil, row_nil_iff] at hr
    subst hr
    rw [past_nil_iff.1 hp]
    rfl
  | some chosen =>
    rw [hch] at hr
    exact (decodeFields_accepts (List.forall_mem_singleton.2 (h chosen hch)) _ _ _).2 ⟨e, ⟨[v], rfl, rfl, hr⟩, hp⟩

/-! ## Records and members -/

/-- The record of a struct with values for all of its fields. -/
theorem make_structRecord {key : String} {fields : List (String × Shape)} (hm : (Shape.struct key fields).Made)
    {vs : List Value} (hl : vs.length = fields.length) :
    (structRecord key fields).make key ((fields.map fun field => fieldName field.1).zip vs) =
      match (structRecord key fields).obstacle? with
      | some m => .error m
      | none => .ok (.record key ((fields.map fun field => fieldName field.1).zip vs)) := by
  have hfst : ((fields.map fun field => fieldName field.1).zip vs).map Prod.fst =
      fields.map fun field => fieldName field.1 := List.map_fst_zip (by rw [List.length_map, hl])
  have hnames : (structRecord key fields).fields.map RecordField.name = fields.map fun field => fieldName field.1 := by
    rw [structRecord, List.map_map]; rfl
  refine RecordType.make_of_fill (fun p hp => ?_) (RecordType.fill_eq_ok (hfst.trans hnames.symm) fun f _ p hp he => ?_)
  · have hp := List.mem_map_of_mem (f := Prod.fst) hp
    rwa [hfst, ← hnames] at hp
  · rw [← he, lookup_of_mem (by rw [hfst]; exact hm.struct_nodup) hp]; rfl

/-- The record of a tagged enumeration with a value for what the chosen variant carries. -/
theorem make_taggedRecord {key : String} {variants : Variants} (hm : (Shape.taggedEnum key variants).Made) (n : Nat)
    (v : Value) :
    (taggedRecord key variants).make key (("choice", .integer n) ::
        (chosen? variants n).toList.map fun chosen => (fieldName chosen.1, v)) =
      match (taggedRecord key variants).obstacle? with
      | some m => .error m
      | none => .ok (.record key (("choice", .integer n) ::
          payloadEntries (Convention.read.absent key) variants ((chosen? variants n).map Prod.fst) v) true) := by
  have hnodup := hm.tagged_nodup
  rw [List.nodup_cons] at hnodup
  have hnames : (taggedRecord key variants).fields.map RecordField.name =
      "choice" :: (Shape.payloadFields variants).map fieldName := by
    rw [taggedRecord, List.map_cons, List.map_map]; rfl
  refine RecordType.make_of_fill (fun p hp => ?_) (RecordType.fill_eq_ok ?_ fun f hf p hp he => ?_)
  · rw [RecordType.names, hnames]
    rcases List.mem_cons.1 hp with rfl | hp
    · exact List.mem_cons_self
    · obtain ⟨chosen, hch, rfl⟩ := List.mem_map.1 hp
      exact List.mem_cons_of_mem _ (List.mem_map_of_mem (mem_of_chosen? (Option.mem_toList.1 hch)).1)
  · rw [hnames, List.map_cons, payloadEntries, List.map_map]; rfl
  · rw [← he]
    rcases List.mem_cons.1 hp with rfl | hp
    · rw [List.lookup_cons, beq_self_eq_true]; rfl
    obtain ⟨field, hfield, rfl⟩ := List.mem_map.1 hp
    -- the names of the fields are distinct, so that only the chosen one is given
    have hne : fieldName field ≠ "choice" := fun h => hnodup.1 (h ▸ List.mem_map_of_mem hfield)
    have hdefault : f.default? = some (Convention.read.absent key (fieldName field)) := by
      rcases List.mem_cons.1 hf with rfl | hf
      · exact absurd he hne
      · obtain ⟨field', -, rfl⟩ := List.mem_map.1 hf
        rw [show fieldName field = fieldName field' from he]; rfl
    rw [List.lookup_cons, beq_eq_false_iff_ne.2 hne, hdefault]
    cases hch : chosen? variants n with
    | none => rfl
    | some chosen =>
      rw [Option.toList_some, List.map_singleton, List.lookup_cons]
      by_cases h : fieldName field = fieldName chosen.1
      · have hf := List.inj_on_of_nodup_map hnodup.2 (mem_of_chosen? hch).1 hfield h.symm
        rw [h, beq_self_eq_true, Option.map_some, hf, if_pos rfl]; rfl
      · rw [beq_eq_false_iff_ne.2 h, Option.map_some, if_neg fun hs => h (congrArg fieldName (Option.some.inj hs).symm)]
        rfl

theorem decodedRecord_eq_ok {t : RecordType} {key : String} {given : List (String × Value)} {cur cur' : Cursor}
    {r v : Value}
    (hm : t.make key given = match t.obstacle? with
      | some m => .error m
      | none => .ok r) :
    decodedRecord t key given cur = .ok (v, cur') ↔ t.obstacle? = none ∧ v = r ∧ cur' = cur := by
  rw [decodedRecord, mapError_eq_ok, map_eq_ok, hm]
  cases t.obstacle? with
  | some m => simp
  | none => simp [eq_comm]

theorem decodedMember_eq_ok {key : String} {names : List String} {ordinal : Nat} {cur cur' : Cursor} {v : Value} :
    decodedMember c key names ordinal cur = .ok (v, cur') ↔ ∃ t name,
      EnumType.ofNames (Text.asciiName key) names = .ok t ∧ t.member? ordinal = some name ∧
      v = .member key name ordinal ∧ cur' = cur := by
  unfold decodedMember
  rw [bind_eq_ok]
  simp only [mapError_eq_ok]
  constructor
  · rintro ⟨t, ht, h⟩
    split at h
    · rename_i name hname
      cases h; exact ⟨t, name, ht, hname, rfl, rfl⟩
    · cases h
  · rintro ⟨t, name, ht, hname, rfl, rfl⟩
    refine ⟨t, ht, ?_⟩
    rw [hname]; rfl

/-! ## One layer -/

/-- A number read without a sign is a natural number. -/
theorem decode_unsigned_accepts (width : IntWidth) {size : Nat} (h : width.bytes = size) :
    Accepts (read (Integer.decode false size)) fun n e => ∃ k : Nat, n = k ∧
      Wire.encode (.integer false width) (.integer k) = .ok e := by
  subst h
  intro cur n cur'
  rw [read_accepts (Integer.decode_accepts false width.bytes) cur n cur']
  refine exists_congr fun e => and_congr_left fun _ => ?_
  constructor
  · rintro ⟨hr, rfl⟩
    have hn : 0 ≤ n := (Integer.inRange_iff.1 hr).1
    exact ⟨n.toNat, by omega, Wire.encode_integer.2 ⟨by rwa [Int.toNat_of_nonneg hn], by rw [Int.toNat_of_nonneg hn]⟩⟩
  · rintro ⟨k, rfl, h⟩
    exact Wire.encode_integer.1 h

/-- The key of the shape calls a function that accepts the codes of parts under the key as long as it may call
others `depth` deep. -/
def ChildAccepts (c : Codec) (depth : Nat) (code : Part → List UInt8 → Prop) (child : Shape) : Prop :=
  ∃ f, c.function child.key = .ok f ∧
    ∀ depth', depth ≤ depth' → Accepts (decodeShape c depth' f) fun v e => code (child.key, v) e

theorem ChildAccepts.call {depth : Nat} {child : Shape} (h : ChildAccepts c depth code child) :
    CallAccepts c (decodeShape c (depth + 1)) code child := by
  obtain ⟨f, hf, ha⟩ := h
  exact ⟨f, hf, ha _ (Nat.le_succ depth)⟩

theorem ChildAccepts.item {depth : Nat} {child : Shape} (h : ChildAccepts c depth code child) :
    Accepts (decodeItem c (depth + 1) child) fun v e => code (child.key, v) e := by
  obtain ⟨f, hf, ha⟩ := h
  intro cur v cur'
  rw [decodeItem, hf]
  exact ha _ (Nat.le_refl depth) cur v cur'

/-- An option is read as nothing behind one flag, and as what it holds behind the other. -/
theorem decodeShape_option {depth : Nat} {child : Shape} {cur cur' : Cursor} {v : Value} :
    decodeShape c (depth + 1) (.option child) cur = .ok (v, cur') ↔
      Past cur [0] cur' ∧ v = (if isBoxed (.option child) then boxOf (Shape.option child).key false .null else .null) ∨
      ∃ cur1 f x, Past cur [1] cur1 ∧ c.function child.key = .ok f ∧ decodeShape c depth f cur1 = .ok (x, cur') ∧
        v = if isBoxed (.option child) then boxOf (Shape.option child).key true x else x := by
  rw [decodeShape, bind_eq_ok]
  simp only [Prod.exists, read_accepts Wire.decodeBool_accepts cur]
  constructor
  · rintro ⟨flag, cur1, ⟨_, rfl, hp⟩, hv⟩
    cases flag with
    | false =>
      refine Or.inl ?_
      cases hb : isBoxed (.option child) <;> simp only [hb] at hv <;> cases hv <;> exact ⟨hp, rfl⟩
    | true =>
      simp only [if_true] at hv
      obtain ⟨f, hf, hv⟩ := bind_eq_ok.1 hv
      obtain ⟨⟨x, cur2⟩, hx, hv⟩ := bind_eq_ok.1 hv
      refine Or.inr ⟨cur1, f, x, hp, hf, ?_⟩
      cases hb : isBoxed (.option child) <;> simp only [hb] at hv <;> cases hv <;> exact ⟨hx, rfl⟩
  · rintro (⟨hp, rfl⟩ | ⟨cur1, f, x, hp, hf, hx, rfl⟩)
    · refine ⟨false, cur', ⟨_, rfl, hp⟩, ?_⟩
      cases isBoxed (.option child) <;> rfl
    · refine ⟨true, cur1, ⟨_, rfl, hp⟩, bind_eq_ok.2 ⟨f, hf, bind_eq_ok.2 ⟨(x, cur'), hx, ?_⟩⟩⟩
      cases isBoxed (.option child) <;> rfl

theorem takes_option {depth : Nat} {child : Shape} (hcall : CallTakes c (decodeShape c depth) code child) :
    Takes (decodeShape c (depth + 1) (.option child)) (LayerCode .read code (.option child)) := by
  intro cur v cur' h
  rcases decodeShape_option.1 h with ⟨hp, rfl⟩ | ⟨cur1, f, x, hp, hf, hx, rfl⟩
  · refine ⟨[0], .leaf ?_, hp⟩
    cases hb : isBoxed (.option child) with
    | false => exact .absent hb
    | true => exact .emptyBox hb
  · obtain ⟨e, he, hp'⟩ := hcall hf hx
    refine ⟨[1] ++ e, ⟨[1], [(child.key, x)], e, ?_, row_singleton_iff.2 he, rfl⟩, past_append_iff.2 ⟨cur1, hp, hp'⟩⟩
    cases hb : isBoxed (.option child) with
    | false => exact .present hb
    | true => exact .box hb

theorem takes_taggedEnum {depth : Nat} {key : String} {variants : Variants}
    (hmade : (Shape.taggedEnum key variants).Made)
    (hcall : ∀ child ∈ (Shape.taggedEnum key variants).children, CallTakes c (decodeShape c depth) code child) :
    Takes (decodeShape c (depth + 1) (.taggedEnum key variants)) (LayerCode .read code (.taggedEnum key variants)) := by
  intro cur v cur' h
  obtain ⟨⟨choice, cur1⟩, hchoice, h⟩ := bind_eq_ok.1 h
  obtain ⟨front, ⟨n, rfl, he⟩, hp⟩ := (decode_unsigned_accepts .w64 rfl).takes hchoice
  dsimp only at h
  rw [Int.toNat_natCast] at h
  split at h
  · cases h
  rename_i hn
  obtain ⟨⟨entries, cur2⟩, hentries, h⟩ := bind_eq_ok.1 h
  have hpayload : ∀ chosen ∈ chosen? variants n, CallTakes c (decodeShape c depth) code chosen.2 :=
    fun chosen hch => hcall chosen.2 (List.mem_map_of_mem (f := Prod.snd) (mem_of_chosen? hch).2)
  obtain ⟨body, ⟨x, rfl, hrow⟩, hp'⟩ := takes_payload hpayload hentries
  obtain ⟨ho, rfl, rfl⟩ := (decodedRecord_eq_ok (make_taggedRecord hmade n x)).1 h
  have hlayer := (layout_taggedEnum_iff (k := .read)).2 ⟨n, x, ho, trivial, by omega, rfl, he.symm, rfl⟩
  exact ⟨front ++ body, ⟨front, _, body, hlayer, hrow, rfl⟩,
    past_append_iff.2 ⟨cur1, hp, hp'⟩⟩

/-- The functions of a shape take one layer off, if the functions that they call take the codes of parts. -/
theorem takes_layer {depth : Nat} {s : Shape} (hmade : s.Made) (hsize : ∀ child n, s = .array child n → 0 ≤ n)
    (hcall : ∀ child ∈ s.children, CallTakes c (decodeShape c depth) code child)
    (hitem : ∀ child ∈ s.children, Takes (decodeItem c depth child) fun v e => code (child.key, v) e) :
    Takes (decodeShape c (depth + 1) s) (LayerCode .read code s) := by
  intro cur v cur' h
  cases s with
  | primitive p =>
    obtain ⟨e, ⟨ht, he⟩, hp⟩ := (read_accepts (Wire.decode_accepts p)).takes h
    exact ⟨e, .leaf (layout_primitive_iff.2 ⟨ht, he.symm, rfl⟩), hp⟩
  | reference name => cases h
  | option child => exact takes_option (hcall child List.mem_cons_self) h
  | sequence child =>
    obtain ⟨⟨count, cur1⟩, hcount, h⟩ := bind_eq_ok.1 h
    obtain ⟨⟨items, cur2⟩, hitems, h⟩ := bind_eq_ok.1 h
    cases h
    obtain ⟨_, ⟨hn, rfl⟩, hp⟩ := (read_accepts Length.decode_accepts).takes hcount
    obtain ⟨vs, body, rfl, rfl, hrow, hp'⟩ := takes_items (hitem child List.mem_cons_self) hitems
    exact ⟨_, ⟨_, _, body, .sequence hn, row_map_iff.2 hrow, rfl⟩, past_append_iff.2 ⟨cur1, hp, hp'⟩⟩
  | array child size =>
    obtain ⟨⟨items, cur1⟩, hitems, h⟩ := bind_eq_ok.1 h
    cases h
    obtain ⟨vs, body, rfl, hlength, hrow, hp⟩ := takes_items (hitem child List.mem_cons_self) hitems
    -- as many items are read as the size says only because it is not negative
    have hn := hsize child size rfl
    exact ⟨body, ⟨[], _, body, .array (by omega), row_map_iff.2 hrow, rfl⟩, hp⟩
  | struct key fields =>
    obtain ⟨⟨entries, cur1⟩, hentries, h⟩ := bind_eq_ok.1 h
    have hfields : ∀ field ∈ fields, CallTakes c (decodeShape c depth) code field.2 := fun field hfield =>
      hcall field.2 (List.mem_map_of_mem hfield)
    obtain ⟨body, ⟨vs, hlength, rfl, hrow⟩, hp⟩ := takes_fields hfields hentries
    obtain ⟨ho, rfl, rfl⟩ := (decodedRecord_eq_ok (make_structRecord hmade hlength)).1 h
    exact ⟨body, ⟨[], _, body, .struct ho hlength, hrow, rfl⟩, hp⟩
  | simpleEnum key names =>
    obtain ⟨⟨ordinal, cur1⟩, hordinal, h⟩ := bind_eq_ok.1 h
    obtain ⟨e, ⟨n, rfl, he⟩, hp⟩ := (decode_unsigned_accepts .w8 rfl).takes hordinal
    obtain ⟨t, name, ht, hn, rfl, rfl⟩ := decodedMember_eq_ok.1 h
    exact ⟨e, .leaf (layout_simpleEnum_iff.2 ⟨t, name, n, ht, trivial, hn, rfl, he.symm, rfl⟩), hp⟩
  | taggedEnum key variants => exact takes_taggedEnum hmade hcall h

/-- An option reads back each layer that it can have, in a record or not. -/
theorem decodeShape_option_of_layout {depth : Nat} {child : Shape}
    (h : CallAccepts c (decodeShape c depth) code child) {v : Value} {front body : List UInt8} {parts : List Part}
    (hl : Layout .read (.option child) v (.ok front) parts) (hr : Row code parts body) {cur cur1 cur' : Cursor}
    (hfront : Past cur front cur1) (hbody : Past cur1 body cur') :
    decodeShape c (depth + 1) (.option child) cur = .ok (v, cur') := by
  obtain ⟨f, hf, ha⟩ := h
  rw [decodeShape_option]
  cases hb : isBoxed (.option child) with
  | false =>
    rcases (layout_option_iff hb).1 hl with ⟨rfl, he, rfl⟩ | ⟨he, rfl⟩ <;> cases he
    · rw [row_nil_iff.1 hr] at hbody
      rw [past_nil_iff.1 hbody]
      exact Or.inl ⟨hfront, rfl⟩
    · exact Or.inr ⟨cur1, f, v, hfront, hf, (ha _ _ _).2 ⟨body, row_singleton_iff.1 hr, hbody⟩, rfl⟩
  | true =>
    rcases (layout_box_iff hb).1 hl with ⟨rfl, he, rfl⟩ | ⟨x, rfl, he, rfl⟩ <;> cases he
    · rw [row_nil_iff.1 hr] at hbody
      rw [past_nil_iff.1 hbody]
      exact Or.inl ⟨hfront, rfl⟩
    · exact Or.inr ⟨cur1, f, x, hfront, hf, (ha _ _ _).2 ⟨body, row_singleton_iff.1 hr, hbody⟩, rfl⟩

/-- Each shape takes one layer off. -/
theorem decodeShape_accepts (hc : c.Sound) {depth : Nat} {s : Shape} (hs : s ∈ c.table.shapes)
    (h : ∀ child ∈ s.children, ChildAccepts c depth code child) :
    Accepts (decodeShape c (depth + 2) s) (LayerCode .read code s) := by
  have hmade := hc.made s hs
  intro cur v cur'
  refine ⟨takes_layer hmade (fun child n he => hc.size (he ▸ hs)) (fun child hchild => (h child hchild).call.takes)
    fun child hchild => (h child hchild).item.takes, ?_⟩
  rintro ⟨_, ⟨front, parts, body, hl, hr, rfl⟩, hp⟩
  obtain ⟨cur1, hfront, hbody⟩ := past_append_iff.1 hp
  cases s with
  | primitive p =>
    obtain ⟨ht, he, rfl⟩ := layout_primitive_iff.1 hl
    rw [row_nil_iff.1 hr] at hbody
    rw [decodeShape, past_nil_iff.1 hbody]
    exact (read_accepts (Wire.decode_accepts p) _ _ _).2 ⟨front, ⟨ht, he.symm⟩, hfront⟩
  | reference name => exact (not_layout_reference hl).elim
  | sequence child =>
    obtain ⟨vs, hn, rfl, he, rfl⟩ := layout_sequence_iff.1 hl
    cases he
    rw [decodeShape, (read_accepts Length.decode_accepts _ _ _).2 ⟨_, ⟨hn, rfl⟩, hfront⟩, ok_bind]
    dsimp only
    have hitem := (h child List.mem_cons_self).item
    rw [(decodeItems_eq_ok hitem).2 ⟨vs, body, rfl, rfl, row_map_iff.1 hr, hbody⟩]
    rfl
  | option child =>
    exact decodeShape_option_of_layout (h child List.mem_cons_self).call hl hr hfront hbody
  | array child size =>
    obtain ⟨vs, hlength, rfl, he, rfl⟩ := layout_array_iff.1 hl
    cases he
    rw [past_nil_iff.1 hfront] at hbody
    have hitem := (h child List.mem_cons_self).item
    have hcount : vs.length = size.toNat := by omega
    rw [decodeShape, (decodeItems_eq_ok hitem).2 ⟨vs, body, rfl, hcount, row_map_iff.1 hr, hbody⟩]
    rfl
  | struct key fields =>
    -- nothing stands before the fields, so that the front leaves the cursor where it is
    obtain ⟨vs, ho, hlength, rfl, he, rfl⟩ := layout_struct_iff.1 hl
    cases he
    rw [past_nil_iff.1 hfront] at hbody
    have hfields : ∀ field ∈ fields, CallAccepts c (decodeShape c (depth + 1)) code field.2 := fun field hf =>
      (h field.2 (List.mem_map_of_mem hf)).call
    rw [decodeShape, (decodeFields_accepts hfields _ _ _).2 ⟨body, ⟨vs, hlength, rfl, hr⟩, hbody⟩, ok_bind]
    exact (decodedRecord_eq_ok (make_structRecord hmade hlength)).2 ⟨ho, rfl, rfl⟩
  | simpleEnum key names =>
    obtain ⟨t, name, n, ht, -, hn, rfl, he, rfl⟩ := layout_simpleEnum_iff.1 hl
    rw [row_nil_iff.1 hr] at hbody
    have hread : Accepts (read (Integer.decode false 1)) _ := decode_unsigned_accepts .w8 rfl
    rw [decodeShape, (hread _ _ _).2 ⟨front, ⟨n, rfl, he.symm⟩, hfront⟩, ok_bind, past_nil_iff.1 hbody]
    exact decodedMember_eq_ok.2 ⟨t, name, ht, hn, rfl, rfl⟩
  | taggedEnum key variants =>
    obtain ⟨n, x, ho, -, hn, rfl, he, rfl⟩ := layout_taggedEnum_iff.1 hl
    have hpayload : ∀ chosen ∈ chosen? variants n, CallAccepts c (decodeShape c (depth + 1)) code chosen.2 :=
      fun chosen hch => (h chosen.2 (List.mem_map_of_mem (f := Prod.snd) (mem_of_chosen? hch).2)).call
    have hread : Accepts (read (Integer.decode false 8)) _ := decode_unsigned_accepts .w64 rfl
    rw [decodeShape, (hread _ _ _).2 ⟨front, ⟨n, rfl, he.symm⟩, hfront⟩, ok_bind]
    dsimp only
    rw [Int.toNat_natCast, if_neg (Nat.not_le_of_lt hn),
      (decodePayload_accepts hpayload _ _ _).2 ⟨body, ⟨x, rfl, hr⟩, hbody⟩, ok_bind]
    exact (decodedRecord_eq_ok (make_taggedRecord hmade n x)).2 ⟨ho, rfl, rfl⟩

/-! ## All layers -/

/-- Functions that may call others deep enough accept the codes of the values that are read. -/
theorem decodeShape_accepts_codes (hc : c.Sound) {key : String} {s : Shape} {depth : Nat}
    (hs : c.table.get? key = some s) (hd : 2 * (c.table.rank key + 1) ≤ depth) :
    Accepts (decodeShape c depth s) (Codes .read c.table key) := by
  induction hn : c.table.rank key using Nat.strongRecOn generalizing key s depth with
  | ind n ih =>
    obtain ⟨depth, rfl⟩ : ∃ d, depth = d + 2 := ⟨depth - 2, by omega⟩
    obtain ⟨hmem, rfl⟩ := Table.mem_of_get? hs
    have hlayer := decodeShape_accepts hc hmem fun child hchild =>
      show ChildAccepts c depth (fun p e => Codes .read c.table p.1 p.2 e) child by
        obtain ⟨f, hf, hcall, hr⟩ := hc.child hmem hchild
        exact ⟨f, hcall, fun depth' hd' => ih _ (hn ▸ hr) hf (by omega) rfl⟩
    intro cur v cur'
    simp only [hlayer cur v cur', codes_iff hs]

/-- What can be read at an offset: a code, wherever it stands. -/
theorem decodeAt_eq_ok (hc : c.Sound) {key : String} {offset : Int} {bytes : List UInt8} {v : Value}
    {cur' : Cursor} : c.decodeAt key offset bytes = .ok (v, cur') ↔
      ∃ before e after, offset = before.length ∧ bytes = before ++ e ++ after ∧ Codes .read c.table key v e ∧
        cur' = ⟨before.length + e.length, after⟩ := by
  unfold decodeAt
  simp only [bind_eq_ok, hc.entry_eq_ok, mapError_eq_ok]
  constructor
  · rintro ⟨s, hs, cur, hcur, h⟩
    obtain ⟨e, he, hp⟩ := (decodeShape_accepts_codes hc hs (hc.rank_lt_depth hs) _ _ _).1 h
    unfold at? at hcur
    split at hcur
    · rename_i ho
      cases hcur
      have hlen : (bytes.take offset.toNat).length = offset.toNat := by rw [List.length_take]; omega
      refine ⟨bytes.take offset.toNat, e, cur'.rest, by omega, ?_, he, ?_⟩
      · rw [List.append_assoc, ← hp.rest, List.take_append_drop]
      · rw [hlen, ← hp.position]
    · cases hcur
  · rintro ⟨before, e, after, rfl, rfl, he, rfl⟩
    obtain ⟨s, hs⟩ : ∃ s, c.table.get? key = some s := by
      cases he with | mk hs _ _ => exact ⟨_, hs⟩
    refine ⟨s, hs, ⟨before.length, e ++ after⟩, ?_, ?_⟩
    · unfold at?
      rw [if_pos (by simp only [List.length_append]; omega), Int.toNat_natCast, List.append_assoc, List.drop_left]
    · exact (decodeShape_accepts_codes hc hs (hc.rank_lt_depth hs) _ _ _).2 ⟨e, he, past_mk⟩

/-- All of the bytes can be read as a value exactly if they are its code. -/
theorem decode_eq_ok (hc : c.Sound) {key : String} {bytes : List UInt8} {v : Value} :
    c.decode key bytes = .ok v ↔ Codes .read c.table key v bytes := by
  unfold decode
  rw [bind_eq_ok]
  simp only [Prod.exists, decodeAt_eq_ok hc]
  constructor
  · rintro ⟨v', cur, ⟨before, e, after, h0, rfl, he, rfl⟩, h⟩
    have hb : before = [] := List.length_eq_zero_iff.1 (by omega)
    subst hb
    split at h
    · rename_i ha
      cases h
      have ha : after = [] := List.isEmpty_iff.1 ha
      rw [ha, List.append_nil]
      exact he
    · cases h
  · intro h
    exact ⟨v, ⟨bytes.length, []⟩, ⟨[], bytes, [], rfl, (List.append_nil bytes).symm, h, by simp⟩, rfl⟩

end SolidityWire.Codec
