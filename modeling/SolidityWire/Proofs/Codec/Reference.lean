/-
Codes under the key of a format's shape are the reference encoding of the format. The two agree layer by layer:
a format and a key agree if what they are put together from does, and the key of a format's shape leads back to
the shape itself, or to that of the container which is referred to.
-/
import SolidityWire.Proofs.Codec.Encoding
import SolidityWire.Proofs.Schema.Encodes
import SolidityWire.Proofs.Shape.Needs

namespace SolidityWire

open Codec GeneratedType Plan

variable {r : Registry} {k : Convention} {t : Table} {key : String}

/-! ## Layers -/

/-- The codes of values of the key are what the reference encoding makes of them as values of the format. -/
def Agrees (r : Registry) (k : Convention) (t : Table) (f : Format) (key : String) : Prop :=
  ∀ v e, Typed k t key v → (Codes k t key v e ↔ r.Encodes f v e)

theorem row_agrees {f : Format} (h : Agrees r k t f key) {vs : List Value}
    (hv : ∀ p ∈ (vs.map fun v => (key, v)), Typed k t p.1 p.2) {e : List UInt8} :
    Row (fun p e => Codes k t p.1 p.2 e) (vs.map fun v => (key, v)) e ↔
      Row (fun p e => r.Encodes p.1 p.2 e) (vs.map fun v => (f, v)) e := by
  rw [row_map_iff, row_map_iff]
  have hiff := fun v hmem e => h v e (hv (key, v) (List.mem_map_of_mem hmem))
  exact ⟨fun hr => hr.imp fun v hmem e => (hiff v hmem e).1, fun hr => hr.imp fun v hmem e => (hiff v hmem e).2⟩

theorem row_zip_agrees : ∀ {fs : List Format} {fields : List (String × Shape)} {vs : List Value},
    fields.length = fs.length → (∀ p ∈ fs.zip fields, Agrees r k t p.1 p.2.2.key) →
    (∀ p ∈ (fields.map fun field => field.2.key).zip vs, Typed k t p.1 p.2) → ∀ e : List UInt8,
    Row (fun p e => Codes k t p.1 p.2 e) ((fields.map fun field => field.2.key).zip vs) e ↔
      Row (fun p e => r.Encodes p.1 p.2 e) (fs.zip vs) e
  | [], [], _, _, _, _, e => by
    rw [List.map_nil, List.zip_nil_left, List.zip_nil_left, row_nil_iff, row_nil_iff]
  | _ :: _, _ :: _, [], _, _, _, e => by
    rw [List.zip_nil_right, List.zip_nil_right, row_nil_iff, row_nil_iff]
  | f :: fs, field :: fields, v :: vs, hl, h, hv, e => by
    rw [List.map_cons, List.zip_cons_cons, List.zip_cons_cons, row_cons_iff, row_cons_iff]
    have ih := @row_zip_agrees fs fields vs (Nat.succ.inj hl)
      (fun p hp => h p (List.mem_cons_of_mem _ hp)) fun p hp => hv p (List.mem_cons_of_mem _ hp)
    simp only [ih, h (f, field) List.mem_cons_self v _ (hv _ List.mem_cons_self)]

theorem agrees_primitive (ht : t.Definite) {p : Primitive} (hs : t.get? key = some (.primitive p)) :
    Agrees r k t (.primitive p) key := by
  intro v e hv
  obtain ⟨front, parts, hl, hp⟩ := (typed_iff hs).1 hv
  rw [codes_iff_of_layout ht hs hl hp]
  obtain ⟨htyped, rfl, rfl⟩ := layout_primitive_iff.1 hl
  simp only [row_nil_iff, Wire.encode_eq_ok_iff htyped]
  constructor
  · rintro ⟨f, _, he, rfl, rfl⟩
    rw [List.append_nil]
    exact .primitive he
  · intro h
    cases h with
    | primitive he => exact ⟨e, [], he, rfl, (List.append_nil e).symm⟩

theorem Registry.Encodes.ne_null {f : Format} {v : Value} {e : List UInt8} (h : r.Encodes f v e)
    (hf : f.canBeNull = false) : v ≠ .null := by
  rintro rfl
  generalize hv : Value.null = v at h
  cases h with
  | primitive he =>
    cases he with
    | unit => cases hf
    | _ => cases hv
  | none _ => cases hf
  | some _ _ => cases hf
  | struct _ _ ht => cases ht; cases hv
  | _ => cases hv

/-- Where what it holds has no null of its own, an option is null or what it holds. -/
theorem agrees_plainOption (ht : t.Definite) {f : Format} {child : Shape} (hs : t.get? key = some (.option child))
    (hb : isBoxed (.option child) = false) (hf : f.canBeNull = false) (h : Agrees r k t f child.key) :
    Agrees r k t (.option f) key := by
  intro v e hv
  obtain ⟨front, parts, hl, hp⟩ := (typed_iff hs).1 hv
  have hm := ht.marks hs hl hp
  rw [codes_iff_of_layout ht hs hl hp]
  rcases (layout_option_iff hb).1 hl with ⟨rfl, rfl, rfl⟩ | ⟨rfl, rfl⟩
  · constructor
    · rintro ⟨_, _, he, hr, rfl⟩
      cases he
      rw [row_nil_iff.1 hr]
      exact .none hf
    · intro he
      cases he with
      | none _ => exact ⟨_, _, rfl, .nil, rfl⟩
      | some _ he => exact absurd rfl (he.ne_null hf)
  · have hiff := fun body => h v body (hp _ List.mem_cons_self)
    simp only [row_singleton_iff, hiff]
    constructor
    · rintro ⟨_, body, he, hr, rfl⟩
      cases he
      exact .some hf hr
    · intro he
      cases he with
      | none _ => exact absurd rfl (hm child rfl hb _ List.mem_cons_self)
      | some _ he => exact ⟨_, _, rfl, he, rfl⟩
      | flaggedNone hf' => rw [hf] at hf'; cases hf'
      | flaggedSome hf' _ => rw [hf] at hf'; cases hf'

/-- Where what it holds can be null, an option is a record with a flag. -/
theorem agrees_flaggedOption (ht : t.Definite) {f : Format} {child : Shape} (hs : t.get? key = some (.option child))
    (hb : isBoxed (.option child) = true) (hf : f.canBeNull = true) (h : Agrees r k t f child.key) :
    Agrees r k t (.option f) key := by
  intro v e hv
  obtain ⟨front, parts, hl, hp⟩ := (typed_iff hs).1 hv
  rw [codes_iff_of_layout ht hs hl hp]
  rcases (layout_box_iff hb).1 hl with ⟨rfl, rfl, rfl⟩ | ⟨x, rfl, rfl, rfl⟩
  · constructor
    · rintro ⟨_, _, he, hr, rfl⟩
      cases he
      rw [row_nil_iff.1 hr]
      exact .flaggedNone hf
    · intro he
      cases he with
      | some hf' _ => rw [hf] at hf'; cases hf'
      | flaggedNone _ => exact ⟨_, _, rfl, .nil, rfl⟩
  · have hiff := fun body => h x body (hp _ List.mem_cons_self)
    simp only [row_singleton_iff, hiff]
    constructor
    · rintro ⟨_, body, he, hr, rfl⟩
      cases he
      exact .flaggedSome hf hr
    · intro he
      cases he with
      | some hf' _ => rw [hf] at hf'; cases hf'
      | flaggedSome _ he => exact ⟨_, _, rfl, he, rfl⟩

theorem agrees_option (ht : t.Definite) {f : Format} {child : Shape} (hs : t.get? key = some (.option child))
    (hnull : isBoxed (.option child) = f.canBeNull) (h : Agrees r k t f child.key) : Agrees r k t (.option f) key := by
  cases hb : isBoxed (.option child) with
  | false => exact agrees_plainOption ht hs hb (hnull.symm.trans hb) h
  | true => exact agrees_flaggedOption ht hs hb (hnull.symm.trans hb) h

theorem agrees_sequence (ht : t.Definite) {f : Format} {child : Shape} (hs : t.get? key = some (.sequence child))
    (h : Agrees r k t f child.key) : Agrees r k t (.sequence f) key := by
  intro v e hv
  obtain ⟨front, parts, hl, hp⟩ := (typed_iff hs).1 hv
  rw [codes_iff_of_layout ht hs hl hp]
  obtain ⟨vs, _, rfl, rfl, rfl⟩ := layout_sequence_iff.1 hl
  simp only [row_agrees h hp]
  constructor
  · rintro ⟨_, body, he, hr, rfl⟩
    cases he
    exact .sequence hr
  · intro he
    cases he with
    | sequence hr => exact ⟨_, _, rfl, hr, rfl⟩

theorem agrees_map (ht : t.Definite) {keyFormat value : Format} {entry : Shape}
    (hs : t.get? key = some (.sequence entry)) (h : Agrees r k t (.tuple [keyFormat, value]) entry.key) :
    Agrees r k t (.map keyFormat value) key := by
  intro v e hv
  obtain ⟨front, parts, hl, hp⟩ := (typed_iff hs).1 hv
  rw [codes_iff_of_layout ht hs hl hp]
  obtain ⟨vs, _, rfl, rfl, rfl⟩ := layout_sequence_iff.1 hl
  simp only [row_agrees h hp]
  constructor
  · rintro ⟨_, body, he, hr, rfl⟩
    cases he
    exact .map hr
  · intro he
    cases he with
    | map hr => exact ⟨_, _, rfl, hr, rfl⟩

theorem agrees_array (ht : t.Definite) {f : Format} {size : Nat} {child : Shape}
    (hs : t.get? key = some (.array child size)) (h : Agrees r k t f child.key) : Agrees r k t (.array f size) key := by
  intro v e hv
  obtain ⟨front, parts, hl, hp⟩ := (typed_iff hs).1 hv
  rw [codes_iff_of_layout ht hs hl hp]
  obtain ⟨vs, hn, rfl, rfl, rfl⟩ := layout_array_iff.1 hl
  simp only [row_agrees h hp]
  constructor
  · rintro ⟨_, body, he, hr, rfl⟩
    cases he
    exact .array (Int.ofNat.inj hn) hr
  · intro he
    cases he with
    | array _ hr => exact ⟨_, _, rfl, hr, rfl⟩

theorem agrees_struct (ht : t.Definite) {fs : List Format} {name : String} {fields : List (String × Shape)}
    (hs : t.get? key = some (.struct name fields)) (hlen : fields.length = fs.length)
    (h : ∀ p ∈ fs.zip fields, Agrees r k t p.1 p.2.2.key) : Agrees r k t (.tuple fs) key := by
  intro v e hv
  obtain ⟨front, parts, hl, hp⟩ := (typed_iff hs).1 hv
  rw [codes_iff_of_layout ht hs hl hp]
  obtain ⟨vs, _, hn, rfl, rfl, rfl⟩ := layout_struct_iff.1 hl
  have hsnd : ((fields.map fun field => fieldName field.1).zip vs).map Prod.snd = vs :=
    List.map_snd_zip (by rw [List.length_map, hn])
  simp only [row_zip_agrees hlen h hp]
  constructor
  · rintro ⟨_, body, he, hr, rfl⟩
    cases he
    refine .tuple ?_ (by rwa [hsnd])
    rw [List.length_zip, List.length_map, hn, Nat.min_self, hlen]
  · intro he
    cases he with
    | tuple _ hr =>
      rw [hsnd] at hr
      exact ⟨_, _, rfl, hr, rfl⟩

/-! ## Structs -/

/-- Under the key there is a struct with a field for each format, of the shape that the format leads to. -/
def Table.HasStruct (t : Table) (fs : List Format) (key : String) : Prop :=
  ∃ name fields, t.get? key = some (.struct name fields) ∧ fields.length = fs.length ∧
    ∀ p ∈ fs.zip fields, ∃ inner, p.1.plan.Gives inner p.2.2 ∧ inner ⊆ t.shapes

/-- Formats that occur agree with the keys of their shapes, as far as these have a lower rank. -/
def AgreesBelow (r : Registry) (k : Convention) (t : Table) (n : Nat) : Prop :=
  ∀ f inner s, r.Occurs f → f.plan.Gives inner s → inner ⊆ t.shapes → t.rank s.key < n → Agrees r k t f s.key

theorem AgreesBelow.mono {m n : Nat} (h : AgreesBelow r k t n) (hmn : m ≤ n) : AgreesBelow r k t m :=
  fun f inner s ho hg hsub hr => h f inner s ho hg hsub (Nat.lt_of_lt_of_le hr hmn)

theorem hasStruct_of_plans {fs : List Format} {inner ss : List Shape} {name : String} {fields : List (String × Shape)}
    (h : (Format.plans fs).Gives inner ss) (hinner : inner ⊆ t.shapes) (hfields : fields.map Prod.snd = ss)
    (hs : .struct name fields ∈ t.shapes) : t.HasStruct fs name := by
  subst hfields
  obtain ⟨hl, hzip⟩ := gives_plans_zip h
  refine ⟨name, fields, Table.get?_eq_some_iff.2 ⟨hs, rfl⟩, by rw [← hl, List.length_map], fun p hp => ?_⟩
  obtain ⟨inner', hg, hsub⟩ := hzip (p.1, p.2.2) (by
    rw [List.zip_map_right]
    exact List.mem_map.2 ⟨p, hp, rfl⟩)
  exact ⟨inner', hg, List.Subset.trans hsub hinner⟩

/-- The entries of a map have a struct with fields for the key and the value. -/
theorem hasStruct_of_map {keyFormat value : Format} {ks vs : List Shape} {ksh vsh : Shape}
    (hk : keyFormat.plan.Gives ks ksh) (hv : value.plan.Gives vs vsh) (hks : ks ⊆ t.shapes) (hvs : vs ⊆ t.shapes)
    (hentry : entryStruct ksh vsh ∈ t.shapes) : t.HasStruct [keyFormat, value] (entryStruct ksh vsh).key := by
  have hplans : (Format.plans [keyFormat, value]).Gives (ks ++ (vs ++ [])) [ksh, vsh] :=
    gives_plans_cons.2 ⟨ks, ksh, _, [vsh], hk,
      gives_plans_cons.2 ⟨vs, vsh, [], [], hv, gives_plans_nil.2 ⟨rfl, rfl⟩, rfl, rfl⟩, rfl, rfl⟩
  refine hasStruct_of_plans hplans ?_ rfl hentry
  rw [List.append_nil]
  exact List.append_subset.2 ⟨hks, hvs⟩

theorem hasStruct_of_structPlan {name : String} {fields : List (String × Format)} {shapes : List Shape} {s : Shape}
    (h : (structPlan name fields).Gives shapes s) (hsub : shapes ⊆ t.shapes) :
    s.key = name ∧ t.HasStruct (fields.map Prod.snd) name := by
  obtain ⟨inner, ss, hss, -, rfl, rfl⟩ := gives_structPlan.1 h
  have hl := (gives_plans_zip hss).1
  refine ⟨rfl, hasStruct_of_plans hss (List.Subset.trans (List.subset_append_left ..) hsub) ?_
    (hsub (List.mem_append_right _ List.mem_cons_self))⟩
  exact List.map_snd_zip (by rw [List.length_map, hl, List.length_map])

theorem agrees_of_hasStruct (hg : t.Grounded) (ht : t.Definite) {fs : List Format} (h : t.HasStruct fs key)
    (ho : ∀ f ∈ fs, r.Occurs f) (ih : AgreesBelow r k t (t.rank key)) : Agrees r k t (.tuple fs) key := by
  obtain ⟨name, fields, hs, hl, hzip⟩ := h
  obtain ⟨hmem, rfl⟩ := Table.mem_of_get? hs
  refine agrees_struct ht hs hl fun p hp => ?_
  obtain ⟨inner, hgives, hsub⟩ := hzip p hp
  have hp' := List.of_mem_zip (a := p.1) (b := p.2) hp
  have hchild : p.2.2 ∈ (Shape.struct name fields).children := List.mem_map_of_mem hp'.2
  exact ih p.1 inner p.2.2 (ho p.1 hp'.1) hgives hsub (hg.rank_lt (Table.depends_child hmem hchild))

/-! ## Enumerations -/

/-- What a variant carries agrees with the key of its shape. -/
theorem agrees_payload (hg : t.Grounded) (ht : t.Definite) {n : Nat} (ih : AgreesBelow r k t n) {vf : VariantFormat}
    {enumName variant : String} {inner : List Shape} {payload : Option Shape}
    (h : (vf.plan enumName variant).Gives inner payload) (hsub : inner ⊆ t.shapes)
    (ho : ∀ f ∈ vf.contents, r.Occurs f) :
    payload.isSome = vf.payload?.isSome ∧
      ∀ s ∈ payload, ∀ f ∈ vf.payload?, t.rank s.key < n → Agrees r k t f s.key := by
  have ofStruct : ∀ {fields : List (String × Format)} {inner s},
      (structPlan (enumName ++ "_" ++ variant) fields).Gives inner s → inner ⊆ t.shapes →
      (∀ f ∈ fields.map Prod.snd, r.Occurs f) → t.rank s.key < n →
      Agrees r k t (.tuple (fields.map Prod.snd)) s.key := fun hs hsub ho hr => by
    obtain ⟨hkey, hstruct⟩ := hasStruct_of_structPlan hs hsub
    rw [hkey] at hr ⊢
    exact agrees_of_hasStruct hg ht hstruct ho (ih.mono (Nat.le_of_lt hr))
  cases vf with
  | unit =>
    obtain ⟨-, rfl⟩ := gives_pure.1 h
    exact ⟨rfl, fun _ h => nomatch h⟩
  | newType content =>
    obtain ⟨s, front, _, h1, h2, rfl⟩ := gives_bind.1 h
    obtain ⟨rfl, rfl⟩ := gives_pure.1 h2
    refine ⟨rfl, fun s' hs f hf hr => ?_⟩
    cases hs; cases hf
    exact ih content front s (ho content List.mem_cons_self) h1
      (List.Subset.trans (List.subset_append_left ..) hsub) hr
  | tuple contents =>
    simp only [VariantFormat.plan] at h
    split at h
    · exact (gives_stop h).elim
    · obtain ⟨s, front, _, h1, h2, rfl⟩ := gives_bind.1 h
      obtain ⟨rfl, rfl⟩ := gives_pure.1 h2
      refine ⟨rfl, fun s' hs f hf hr => ?_⟩
      cases hs; cases hf
      have hstruct := ofStruct h1 (List.Subset.trans (List.subset_append_left ..) hsub)
        (by rwa [entryNames_map_snd]) hr
      rwa [entryNames_map_snd] at hstruct
  | struct fields =>
    simp only [VariantFormat.plan] at h
    split at h
    · exact (gives_stop h).elim
    · obtain ⟨s, front, _, h1, h2, rfl⟩ := gives_bind.1 h
      obtain ⟨rfl, rfl⟩ := gives_pure.1 h2
      refine ⟨rfl, fun s' hs f hf hr => ?_⟩
      cases hs; cases hf
      exact ofStruct h1 (List.Subset.trans (List.subset_append_left ..) hsub) ho hr
  | _ => exact (gives_stop h).elim

/-- The shape of an enumeration without payloads lists the names of its variants. -/
theorem Registry.Lowers.get?_simpleEnum (hl : r.Lowers t) {name : String} {vs : List IndexedVariant}
    (hc : (name, .enum vs) ∈ r) (hu : vs.all (·.format.isUnit) = true) :
    t.get? name = some (.simpleEnum name (vs.map (·.name))) := by
  rw [(hl.get?_enum hc).1, Container.shape?, if_pos hu]

/-- The shape of any other enumeration has its variants, each with the shape of what it carries. -/
theorem Registry.Lowers.get?_taggedEnum (hl : r.Lowers t) {name : String} {vs : List IndexedVariant}
    (hc : (name, .enum vs) ∈ r) (hu : vs.all (·.format.isUnit) = false) :
    t.get? name = some (.taggedEnum name (vs.map (·.entry name))) := by
  rw [(hl.get?_enum hc).1, Container.shape?, hu]
  rfl

/-- What the variant of a number carries, in the shape and in the registry. -/
theorem chosen?_entry {name : String} {vs : List IndexedVariant} {n : Nat} {v : IndexedVariant} (h : vs[n]? = some v) :
    chosen? (vs.map (·.entry name)) n = (v.format.shape? name v.name).map fun s => (payloadField v.name, s) := by
  simp only [chosen?, List.getElem?_map, h, Option.map_some, IndexedVariant.entry]
  cases v.format.shape? name v.name <;> rfl

/-! ## Containers -/

theorem agrees_simpleEnum (hl : r.Lowers t) (ht : t.Definite) (ho : r.Ordered) {name : String}
    {vs : List IndexedVariant} (hc : (name, .enum vs) ∈ r) (hu : vs.all (·.format.isUnit) = true) {v : Value}
    {e : List UInt8} (hv : Typed k t name v) :
    Codes k t name v e ↔ ∃ w ∈ vs, rank vs w < 256 ∧ (∃ key, v = .member key w.name (rank vs w)) ∧
      e = [(rank vs w).toUInt8] := by
  have hs := hl.get?_simpleEnum hc hu
  obtain ⟨front, parts, hlayout, hp⟩ := (typed_iff hs).1 hv
  rw [codes_iff_of_layout ht hs hlayout hp]
  obtain ⟨enum, variant, n, henum, -, hn, rfl, hfront, rfl⟩ := layout_simpleEnum_iff.1 hlayout
  have hname := EnumType.getElem?_of_member? henum hn
  rw [List.getElem?_map, Option.map_eq_some_iff] at hname
  obtain ⟨w, hw, rfl⟩ := hname
  have hrank : rank vs w = n := rank_of_getElem? (ho name _ hc) hw
  constructor
  · rintro ⟨f, body, hf, hr, rfl⟩
    obtain ⟨hlt, rfl⟩ := Wire.encode_ordinal.1 (hfront.symm.trans hf)
    refine ⟨w, List.mem_of_getElem? hw, hrank ▸ hlt, ⟨name, by rw [hrank]⟩, ?_⟩
    rw [row_nil_iff.1 hr, hrank, List.append_nil]
  · rintro ⟨w', -, hlt, ⟨key, hmember⟩, rfl⟩
    rw [← (Value.member.inj hmember).2.2] at hlt ⊢
    exact ⟨_, _, hfront.trans (Wire.encode_ordinal.2 ⟨hlt, rfl⟩), .nil, rfl⟩

/-- A layer of a tagged enumeration is that of one of its variants, with what the variant carries as its part. -/
theorem exists_chosen_of_layout (hl : r.Lowers t) (ht : t.Definite) (ho : r.Ordered) {name : String}
    (ih : AgreesBelow r k t (t.rank name)) {vs : List IndexedVariant} (hc : (name, .enum vs) ∈ r)
    (hu : vs.all (·.format.isUnit) = false) {v : Value} {front : Except EncodeError (List UInt8)} {parts : List Part}
    (hlayout : Layout k (.taggedEnum name (vs.map (·.entry name))) v front parts) :
    ∃ (n : Nat) (x : Value) (w : IndexedVariant) (payload : Option Shape), vs[n]? = some w ∧ rank vs w = n ∧
      chosen? (vs.map (·.entry name)) n = payload.map (fun s => (payloadField w.name, s)) ∧
      v = .record name (("choice", .integer n) :: payloadEntries (k.absent name) (vs.map (·.entry name))
        ((chosen? (vs.map (·.entry name)) n).map Prod.fst) x) true ∧
      front = Wire.encode (.integer false .w64) (.integer n) ∧ parts = payload.toList.map (fun s => (s.key, x)) ∧
      payload.isSome = w.format.payload?.isSome ∧ ∀ s ∈ payload, ∀ f ∈ w.format.payload?, Agrees r k t f s.key := by
  have hmem := (Table.mem_of_get? (hl.get?_taggedEnum hc hu)).1
  obtain ⟨n, x, -, -, hn, hv, hfront, hparts⟩ := layout_taggedEnum_iff.1 hlayout
  obtain ⟨w, hw⟩ : ∃ w, vs[n]? = some w := ⟨_, List.getElem?_eq_getElem (by rwa [List.length_map] at hn)⟩
  have hwmem := List.mem_of_getElem? hw
  obtain ⟨inner, hplan, hsub⟩ := (hl.get?_enum hc).2 w hwmem
  have hch := @chosen?_entry name vs n w hw
  generalize w.format.shape? name w.name = payload at hplan hch
  obtain ⟨hsome, hagrees⟩ := agrees_payload hl.grounded ht ih hplan hsub fun f hf =>
    .content hc (List.mem_flatMap.2 ⟨w, hwmem, hf⟩)
  have hbelow : ∀ s ∈ payload, t.rank s.key < t.rank name := fun s hs => by
    have hch' : chosen? (vs.map (·.entry name)) n = some (payloadField w.name, s) := by
      rw [hch, Option.mem_def.1 hs]; rfl
    exact hl.grounded.rank_lt (Table.depends_child hmem
      (List.mem_map_of_mem (f := Prod.snd) (mem_of_chosen? hch').2))
  refine ⟨n, x, w, payload, hw, rank_of_getElem? (ho name _ hc) hw, hch, hv, hfront, ?_, hsome,
    fun s hs f hf => hagrees s hs f hf (hbelow s hs)⟩
  rw [hparts, hch]
  cases payload <;> rfl

theorem agrees_taggedEnum (hl : r.Lowers t) (hmade : ∀ s ∈ t.shapes, s.Made) (ht : t.Definite) (ho : r.Ordered)
    {name : String} (ih : AgreesBelow r k t (t.rank name)) {vs : List IndexedVariant} (hc : (name, .enum vs) ∈ r)
    (hu : vs.all (·.format.isUnit) = false) {v : Value} {e : List UInt8} (hv : Typed k t name v) :
    Codes k t name v e ↔ ∃ w ∈ vs, rank vs w < 2 ^ 64 ∧ ∃ key fields shades,
      v = .record key (("choice", .integer (rank vs w)) :: fields) shades ∧
      (w.format.payload? = none ∧ e = Integer.toBytes 8 (rank vs w) ∨
        ∃ f x body, w.format.payload? = some f ∧ (fieldName (payloadField w.name), x) ∈ fields ∧
          r.Encodes f x body ∧ e = Integer.toBytes 8 (rank vs w) ++ body) := by
  have hs := hl.get?_taggedEnum hc hu
  have hmem := (Table.mem_of_get? hs).1
  obtain ⟨front, parts, hlayout, hp⟩ := (typed_iff hs).1 hv
  rw [codes_iff_of_layout ht hs hlayout hp]
  obtain ⟨n, x, w, payload, hw, hrank, hch, rfl, hfront, rfl, hsome, hagrees⟩ :=
    exists_chosen_of_layout hl ht ho ih hc hu hlayout
  generalize vs.map (·.entry name) = variants at *
  rw [hfront]
  constructor
  · rintro ⟨f, body, hf, hr, rfl⟩
    obtain ⟨hlt, rfl⟩ := Wire.encode_choice.1 hf
    refine ⟨w, List.mem_of_getElem? hw, hrank ▸ hlt, name,
      payloadEntries (k.absent name) variants ((chosen? variants n).map Prod.fst) x, true, by rw [hrank], ?_⟩
    rw [hrank]
    cases payload with
    | none =>
      rw [row_nil_iff.1 hr, List.append_nil]
      exact Or.inl ⟨Option.not_isSome_iff_eq_none.1 (by rw [← hsome]; exact Bool.false_ne_true), rfl⟩
    | some s =>
      obtain ⟨f, hf'⟩ := Option.isSome_iff_exists.1 hsome.symm
      have hbody := row_singleton_iff (p := (s.key, x)).1 hr
      have hx := hagrees s rfl f hf' x body (hp (s.key, x) List.mem_cons_self)
      exact Or.inr ⟨f, x, body, hf', mem_payloadEntries hch x, hx.1 hbody, rfl⟩
  · rintro ⟨w', hw', hlt, key, fields, shades, hrecord, hcases⟩
    -- the number in the record is the rank of one variant only
    obtain ⟨hchoice, rfl⟩ := List.cons.inj (Value.record.inj hrecord).2.1
    have hn' : n = rank vs w' := Int.ofNat.inj (Value.integer.inj (Prod.mk.inj hchoice).2)
    have hw'' : vs[rank vs w']? = some w' := getElem?_rank (ho name _ hc) hw'
    rw [← hn'] at hlt hcases hw''
    cases hw.symm.trans hw''
    rcases hcases with ⟨hnone, rfl⟩ | ⟨f, y, body, hf, hy, hbody, rfl⟩
    · cases payload with
      | none => exact ⟨_, [], Wire.encode_choice.2 ⟨hlt, rfl⟩, .nil, (List.append_nil _).symm⟩
      | some s => rw [hnone] at hsome; cases hsome
    · cases payload with
      | none => rw [hf] at hsome; cases hsome
      | some s =>
        -- the field of the variant is found once, so that it holds what is written
        have hnodup := (List.nodup_cons.1 (hmade _ hmem).tagged_nodup).2
        rw [← payloadEntries_map_fst (k.absent name) variants ((chosen? variants n).map Prod.fst) x] at hnodup
        have hx := lookup_of_mem hnodup (mem_payloadEntries hch x)
        cases hx.symm.trans (lookup_of_mem hnodup hy)
        have hiff := hagrees s rfl f hf x body (hp (s.key, x) List.mem_cons_self)
        exact ⟨_, body, Wire.encode_choice.2 ⟨hlt, rfl⟩, row_singleton_iff.2 (hiff.2 hbody), rfl⟩

theorem Registry.Lowers.hasStruct (hl : r.Lowers t) {name : String} {c : Container} {fs : List Format}
    (hc : (name, c) ∈ r) (hfs : c.parts? = some fs) : t.HasStruct fs name ∧ ∀ f ∈ fs, r.Occurs f := by
  obtain ⟨inner, s, hgives, hsub⟩ := hl.body name c hc
  have ho : ∀ f ∈ c.contents, r.Occurs f := fun f hf => .content hc hf
  cases c with
  | unitStruct => cases hfs
  | newTypeStruct content =>
    cases hfs
    exact ⟨(hasStruct_of_structPlan hgives hsub).2, ho⟩
  | tupleStruct contents =>
    cases hfs
    simp only [Container.bodyPlan] at hgives
    split at hgives
    · exact (gives_stop hgives).elim
    · have hs := (hasStruct_of_structPlan hgives hsub).2
      rw [entryNames_map_snd] at hs
      exact ⟨hs, ho⟩
  | struct fields =>
    cases hfs
    simp only [Container.bodyPlan] at hgives
    split at hgives
    · exact (gives_stop hgives).elim
    · exact ⟨(hasStruct_of_structPlan hgives hsub).2, ho⟩
  | enum vs => cases hfs

/-- A container agrees with its name. -/
theorem agrees_typeName (hl : r.Lowers t) (hmade : ∀ s ∈ t.shapes, s.Made) (ht : t.Definite) (ho : r.Ordered)
    {name : String} {c : Container} (hc : (name, c) ∈ r) (ih : AgreesBelow r k t (t.rank name)) :
    Agrees r k t (.typeName name) name := by
  have hstruct : ∀ {c' fs}, (name, c') ∈ r → c'.parts? = some fs → Agrees r k t (.tuple fs) name := fun hc' hfs => by
    obtain ⟨hs, hocc⟩ := hl.hasStruct hc' hfs
    exact agrees_of_hasStruct hl.grounded ht hs hocc ih
  -- a container other than an enumeration is the tuple of its parts
  intro v e hv
  constructor
  · intro h
    cases hparts : c.parts? with
    | some fs => exact .struct hc hparts ((hstruct hc hparts v e hv).1 h)
    | none =>
      cases c with
      | unitStruct =>
        obtain ⟨_, _, hgives, -⟩ := hl.body name _ hc
        exact (gives_stop hgives).elim
      | enum vs =>
        cases hu : vs.all (·.format.isUnit) with
        | true =>
          obtain ⟨w, hw, hlt, ⟨key, rfl⟩, rfl⟩ := (agrees_simpleEnum hl ht ho hc hu hv).1 h
          exact .simpleEnum hc hu hw hlt
        | false =>
          obtain ⟨w, hw, hlt, key, fields, shades, rfl, hcase⟩ := (agrees_taggedEnum hl hmade ht ho ih hc hu hv).1 h
          rcases hcase with ⟨hnone, rfl⟩ | ⟨f, x, body, hf, hx, hbody, rfl⟩
          · exact .unitVariant hc hu hw hnone hlt
          · exact .payloadVariant hc hu hw hf hlt hx hbody
      | _ => cases hparts
  · intro h
    cases h with
    | struct hc' hfs h => exact (hstruct hc' hfs v e hv).2 h
    | simpleEnum hc' hu hw hlt => exact (agrees_simpleEnum hl ht ho hc' hu hv).2 ⟨_, hw, hlt, ⟨_, rfl⟩, rfl⟩
    | unitVariant hc' hu hw hnone hlt =>
      exact (agrees_taggedEnum hl hmade ht ho ih hc' hu hv).2 ⟨_, hw, hlt, _, _, _, rfl, Or.inl ⟨hnone, rfl⟩⟩
    | payloadVariant hc' hu hw hf hlt hx hbody =>
      exact (agrees_taggedEnum hl hmade ht ho ih hc' hu hv).2
        ⟨_, hw, hlt, _, _, _, rfl, Or.inr ⟨_, _, _, hf, hx, hbody, rfl⟩⟩

/-! ## Formats -/

theorem canBeNull_of_gives {f : Format} {inner : List Shape} {s : Shape} (h : f.plan.Gives inner s) :
    s.canBeNull = f.canBeNull := by
  cases f with
  | primitive p =>
    obtain ⟨-, rfl⟩ := gives_primitive.1 h
    cases p <;> rfl
  | typeName name => obtain ⟨-, rfl⟩ := gives_typeName.1 h; rfl
  | option content => obtain ⟨_, _, -, -, rfl⟩ := gives_option.1 h; rfl
  | sequence content => obtain ⟨_, _, -, -, rfl⟩ := gives_sequence.1 h; rfl
  | map key value => obtain ⟨_, _, _, _, -, -, -, rfl⟩ := gives_map.1 h; rfl
  | tuple contents => obtain ⟨-, _, _, -, -, rfl⟩ := gives_tuple.1 h; rfl
  | array content size => obtain ⟨-, _, _, -, -, rfl⟩ := gives_array.1 h; rfl
  | _ => exact (gives_stop h).elim

theorem isBoxed_option (child : Shape) : isBoxed (.option child) = child.canBeNull := by
  cases child with
  | primitive p => cases p <;> rfl
  | _ => rfl

/-- Every format that occurs agrees with the key of its shape. -/
theorem agrees_of_occurs (hl : r.Lowers t) (hmade : ∀ s ∈ t.shapes, s.Made) (hd : r.Declares) (ho : r.Ordered)
    {f : Format} {inner : List Shape} {s : Shape} (hocc : r.Occurs f) (hgives : f.plan.Gives inner s)
    (hsub : inner ⊆ t.shapes) : Agrees r k t f s.key := by
  have ht := hl.definite hd
  induction hn : t.rank s.key using Nat.strongRecOn generalizing f inner s with
  | ind n ih =>
    subst hn
    have below : AgreesBelow r k t (t.rank s.key) := fun f inner s' ho hg hs hr => ih _ hr ho hg hs rfl
    have found : ∀ {s'}, s' ∈ inner → t.get? s'.key = some s' := fun h => Table.get?_eq_some_iff.2 ⟨hsub h, rfl⟩
    -- a container that is referred to has the rank of its name, all other parts have a lower one
    have lower : ∀ {child}, s ∈ inner → child ∈ s.children → t.rank child.key < t.rank s.key := fun h hc =>
      hl.grounded.rank_lt (Table.depends_child (hsub h) hc)
    cases f with
    | primitive p =>
      obtain ⟨rfl, rfl⟩ := gives_primitive.1 hgives
      exact agrees_primitive ht (found List.mem_cons_self)
    | typeName name =>
      obtain ⟨-, rfl⟩ := gives_typeName.1 hgives
      obtain ⟨c, hc⟩ := hd name hocc
      exact agrees_typeName hl hmade ht ho hc below
    | option content =>
      obtain ⟨inner', child, hchild, rfl, rfl⟩ := gives_option.1 hgives
      have hmem : Shape.option child ∈ [.primitive .bool] ++ inner' ++ [.option child] := by simp
      refine agrees_option ht (found hmem) ((isBoxed_option child).trans (canBeNull_of_gives hchild)) ?_
      exact below _ inner' _ (.option hocc) hchild (fun x hx => hsub (by simp [hx])) (lower hmem List.mem_cons_self)
    | sequence content =>
      obtain ⟨inner', child, hchild, rfl, rfl⟩ := gives_sequence.1 hgives
      have hmem : Shape.sequence child ∈ [.primitive (.integer false .w64)] ++ inner' ++ [.sequence child] := by simp
      refine agrees_sequence ht (found hmem) ?_
      exact below _ inner' _ (.sequence hocc) hchild (fun x hx => hsub (by simp [hx])) (lower hmem List.mem_cons_self)
    | map keyFormat value =>
      obtain ⟨ks, ksh, vs, vsh, hk, hv, rfl, rfl⟩ := gives_map.1 hgives
      have hmem : Shape.sequence (entryStruct ksh vsh) ∈ [.primitive (.integer false .w64)] ++ ks ++ vs ++
          [entryStruct ksh vsh] ++ [.sequence (entryStruct ksh vsh)] := by simp
      have hstruct : t.HasStruct [keyFormat, value] (entryStruct ksh vsh).key :=
        hasStruct_of_map hk hv (fun x hx => hsub (by simp [hx])) (fun x hx => hsub (by simp [hx])) (hsub (by simp))
      refine agrees_map ht (found hmem) (agrees_of_hasStruct hl.grounded ht hstruct (fun f hf => ?_)
        (below.mono (Nat.le_of_lt (lower hmem List.mem_cons_self))))
      rcases List.mem_cons.1 hf with rfl | hf
      · exact .mapKey hocc
      · rw [List.mem_singleton.1 hf]
        exact .mapValue hocc
    | tuple contents =>
      obtain ⟨-, inner', parts, hparts, rfl, rfl⟩ := gives_tuple.1 hgives
      have hmem : tupleStruct parts ∈ inner' ++ [tupleStruct parts] := by simp
      have hstruct : t.HasStruct contents (tupleStruct parts).key :=
        hasStruct_of_plans hparts (List.Subset.trans (List.subset_append_left ..) hsub) (entryNames_map_snd parts)
          (hsub hmem)
      exact agrees_of_hasStruct hl.grounded ht hstruct (fun f hf => .tuple hocc hf) below
    | array content size =>
      obtain ⟨-, inner', child, hchild, rfl, rfl⟩ := gives_array.1 hgives
      have hmem : Shape.array child size ∈ inner' ++ [.array child size] := by simp
      refine agrees_array ht (found hmem) ?_
      exact below _ inner' _ (.array hocc) hchild (List.Subset.trans (List.subset_append_left ..) hsub)
        (lower hmem List.mem_cons_self)
    | _ => exact (gives_stop hgives).elim

end SolidityWire
