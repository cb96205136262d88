/-
Codes are determined from both ends. Two codes under one key that begin at the same place are one code of one
value; and a value has one code, as long as no option marks a null as present.
-/
import SolidityWire.Proofs.Codec.Layout
import SolidityWire.Proofs.Codec.Records
import SolidityWire.Proofs.Shape.OfRegistry

namespace SolidityWire

open Codec GeneratedType

variable {k l : Convention} {t : Table} {s : Shape} {key : String} {v w : Value}

/-! ## Conventions -/

theorem Wire.Typed.mono {admits admits' : Nat → Prop} (h : ∀ n, admits n → admits' n) {p : Primitive}
    (ht : Typed admits p v) : Typed admits' p v := by
  cases ht with
  | unit => exact .unit
  | bool b => exact .bool b
  | integer signed width n => exact .integer signed width n
  | char c hc => exact .char c hc
  | string s hs => exact .string s (h _ hs)
  | bytes data hd => exact .bytes data (h _ hd)

theorem Layout.mono (hkl : k.Le l) {front : Except EncodeError (List UInt8)} {parts : List Part}
    (h : Layout k s v front parts) : Layout l s v front parts := by
  cases h with
  | primitive ht => exact .primitive (ht.mono hkl.admits)
  | absent hb => exact .absent hb
  | present hb => exact .present hb
  | emptyBox hb => exact .emptyBox hb
  | box hb => exact .box hb
  | sequence hl => exact .sequence (hkl.admits _ hl)
  | array hl => exact .array hl
  | struct ho hl => exact .struct ho hl
  | simpleEnum ht hk hn => exact .simpleEnum ht (hkl.enumerates _ hk) hn
  | taggedEnum ho hk hn => exact hkl.absent ▸ .taggedEnum ho (hkl.records _ hk) hn

theorem Typed.mono (hkl : k.Le l) : ∀ {key : String} {v : Value}, Typed k t key v → Typed l t key v
  | _, _, .mk hs hl hp => .mk hs (hl.mono hkl) fun p hmem => (hp p hmem).mono hkl

/-- A layer's code at a time: what holds of the codes of parts under their keys holds of the code behind
their front. -/
@[elab_as_elim]
theorem Codes.induct {motive : String → Value → List UInt8 → Prop}
    (layer : ∀ {key s v front body parts}, t.get? key = some s → Layout k s v (.ok front) parts →
      Row (fun p e => Codes k t p.1 p.2 e ∧ motive p.1 p.2 e) parts body → motive key v (front ++ body))
    {e : List UInt8} (h : Codes k t key v e) : motive key v e := by
  refine @Codes.rec k t (fun key v e _ => motive key v e)
    (fun ps e _ => Row (fun p e => Codes k t p.1 p.2 e ∧ motive p.1 p.2 e) ps e) ?_ ?_ ?_ key v e h
  · intro _ _ _ _ _ _ hs hl _ ih
    exact layer hs hl ih
  · exact .nil
  · intro _ _ _ _ h _ ih ihs
    exact .cons ⟨h, ih⟩ ihs

theorem Codes.mono (hkl : k.Le l) {e : List UInt8} (h : Codes k t key v e) : Codes l t key v e :=
  Codes.induct (fun hs hl hr => .mk hs (hl.mono hkl) (hr.imp fun _ _ _ h => h.2)) h

/-- Only values of a shape have codes. -/
theorem Codes.typed {e : List UInt8} (h : Codes k t key v e) : Typed k t key v := by
  refine Codes.induct (fun hs hl hr => .mk hs hl fun p hp => ?_) h
  obtain ⟨_, h⟩ := hr.exists_of_mem p hp
  exact h.2

/-! ## Codes at one place -/

theorem zip_inj {α β : Type} {names : List α} {vs ws : List β} (hv : vs.length = names.length)
    (hw : ws.length = names.length) (h : names.zip vs = names.zip ws) : vs = ws := by
  have hvs : (names.zip vs).map Prod.snd = vs := List.map_snd_zip (by omega)
  have hws : (names.zip ws).map Prod.snd = ws := List.map_snd_zip (by omega)
  rw [← hvs, h, hws]

/-- What is in the chosen field is told by the record, whatever is in the others. -/
theorem payloadEntries_inj {absent absent' : String → Value} {variants : Variants} {n : Nat}
    {chosen : String × Shape} (hch : chosen? variants n = some chosen)
    (h : payloadEntries absent variants ((chosen? variants n).map Prod.fst) v =
      payloadEntries absent' variants ((chosen? variants n).map Prod.fst) w) : v = w := by
  have := (List.map_inj_left.1 h) chosen.1 (mem_of_chosen? hch).1
  rw [hch, Option.map_some, if_pos rfl, if_pos rfl] at this
  exact (Prod.mk.inj this).2

/-- Numbers without a sign that are written at one place are the same number. -/
theorem Wire.encode_unsigned_unique {width : IntWidth} {n n' : Nat} {f f' rest rest' : List UInt8}
    (h : encode (.integer false width) (.integer n) = .ok f)
    (h' : encode (.integer false width) (.integer n') = .ok f') (he : f ++ rest = f' ++ rest') :
    n = n' ∧ f = f' ∧ rest = rest' := by
  obtain ⟨hv, hf, hr⟩ := (decode_accepts (.integer false width)).unique ⟨.integer _ _ _, h⟩ ⟨.integer _ _ _, h'⟩ he
  exact ⟨Int.ofNat.inj (Value.integer.inj hv), hf, hr⟩

theorem items_map_fst (key : String) (vs : List Value) :
    (vs.map fun v => (key, v)).map Prod.fst = List.replicate vs.length key := by
  rw [List.map_map, ← List.map_const']; rfl

theorem items_map_snd (key : String) (vs : List Value) : (vs.map fun v => (key, v)).map Prod.snd = vs := by
  rw [List.map_map]; exact List.map_id' vs

theorem Layout.front_unique_option {child : Shape} {f f' rest rest' : List UInt8} {ps ps' : List Part}
    (h : Layout k (.option child) v (.ok f) ps) (h' : Layout k (.option child) w (.ok f') ps')
    (he : f ++ rest = f' ++ rest') :
    f = f' ∧ rest = rest' ∧ ps.map Prod.fst = ps'.map Prod.fst ∧ (ps.map Prod.snd = ps'.map Prod.snd → v = w) := by
  cases hb : isBoxed (.option child) with
  | false =>
    -- fronts that differ do not begin alike, so that two of the four cases are left
    rcases (layout_option_iff hb).1 h with ⟨rfl, hf, rfl⟩ | ⟨hf, rfl⟩ <;> cases hf <;>
      rcases (layout_option_iff hb).1 h' with ⟨rfl, hf', rfl⟩ | ⟨hf', rfl⟩ <;> cases hf' <;> cases he
    · exact ⟨rfl, rfl, rfl, fun _ => rfl⟩
    · exact ⟨rfl, rfl, rfl, fun h => (List.cons.inj h).1⟩
  | true =>
    rcases (layout_box_iff hb).1 h with ⟨rfl, hf, rfl⟩ | ⟨x, rfl, hf, rfl⟩ <;> cases hf <;>
      rcases (layout_box_iff hb).1 h' with ⟨rfl, hf', rfl⟩ | ⟨y, rfl, hf', rfl⟩ <;> cases hf' <;> cases he
    · exact ⟨rfl, rfl, rfl, fun _ => rfl⟩
    · exact ⟨rfl, rfl, rfl, fun h => congrArg _ (List.cons.inj h).1⟩

/-- A front ends where another one of the shape does, and both announce parts under the same keys. -/
theorem Layout.front_unique (hk : ∀ n, k.admits n → Wire.isLength n) {f f' rest rest' : List UInt8}
    {ps ps' : List Part} (h : Layout k s v (.ok f) ps) (h' : Layout k s w (.ok f') ps')
    (he : f ++ rest = f' ++ rest') :
    f = f' ∧ rest = rest' ∧ ps.map Prod.fst = ps'.map Prod.fst ∧ (ps.map Prod.snd = ps'.map Prod.snd → v = w) := by
  cases s with
  | primitive p =>
    obtain ⟨ht, hf, rfl⟩ := layout_primitive_iff.1 h
    obtain ⟨ht', hf', rfl⟩ := layout_primitive_iff.1 h'
    obtain ⟨rfl, hff, hr⟩ := (Wire.decode_accepts p).unique ⟨ht.mono hk, hf.symm⟩ ⟨ht'.mono hk, hf'.symm⟩ he
    exact ⟨hff, hr, rfl, fun _ => rfl⟩
  | reference name => exact (not_layout_reference h).elim
  | option child => exact h.front_unique_option h' he
  | sequence child =>
    obtain ⟨vs, hl, rfl, hf, rfl⟩ := layout_sequence_iff.1 h
    obtain ⟨ws, hl', rfl, hf', rfl⟩ := layout_sequence_iff.1 h'
    cases hf; cases hf'
    obtain ⟨hn, hff, hr⟩ := Length.decode_accepts.unique ⟨hk _ hl, rfl⟩ ⟨hk _ hl', rfl⟩ he
    refine ⟨hff, hr, ?_, fun h => ?_⟩
    · rw [items_map_fst, items_map_fst, hn]
    · rw [items_map_snd, items_map_snd] at h
      rw [h]
  | array child size =>
    obtain ⟨vs, hl, rfl, hf, rfl⟩ := layout_array_iff.1 h
    obtain ⟨ws, hl', rfl, hf', rfl⟩ := layout_array_iff.1 h'
    cases hf; cases hf'
    have hn : vs.length = ws.length := by omega
    refine ⟨rfl, he, ?_, fun h => ?_⟩
    · rw [items_map_fst, items_map_fst, hn]
    · rw [items_map_snd, items_map_snd] at h
      rw [h]
  | struct key fields =>
    obtain ⟨vs, _, hl, rfl, hf, rfl⟩ := layout_struct_iff.1 h
    obtain ⟨ws, _, hl', rfl, hf', rfl⟩ := layout_struct_iff.1 h'
    cases hf; cases hf'
    have hkeys : ∀ xs : List Value, xs.length = fields.length →
        ((fields.map fun field => field.2.key).zip xs).map Prod.snd = xs := fun xs hx =>
      List.map_snd_zip (by rw [List.length_map, hx])
    refine ⟨rfl, he, ?_, fun h => ?_⟩
    · rw [List.map_fst_zip (by rw [List.length_map, hl]), List.map_fst_zip (by rw [List.length_map, hl'])]
    · rw [hkeys vs hl, hkeys ws hl'] at h
      rw [h]
  | simpleEnum key names =>
    obtain ⟨t, name, n, ht, -, hn, rfl, hf, rfl⟩ := layout_simpleEnum_iff.1 h
    obtain ⟨t', name', n', ht', -, hn', rfl, hf', rfl⟩ := layout_simpleEnum_iff.1 h'
    obtain ⟨rfl, hff, hr⟩ := Wire.encode_unsigned_unique hf.symm hf'.symm he
    cases ht.symm.trans ht'
    cases hn.symm.trans hn'
    exact ⟨hff, hr, rfl, fun _ => rfl⟩
  | taggedEnum key variants =>
    obtain ⟨n, x, _, -, _, rfl, hf, rfl⟩ := layout_taggedEnum_iff.1 h
    obtain ⟨n', y, _, -, _, rfl, hf', rfl⟩ := layout_taggedEnum_iff.1 h'
    obtain ⟨rfl, hff, hr⟩ := Wire.encode_unsigned_unique hf.symm hf'.symm he
    refine ⟨hff, hr, ?_, fun h => ?_⟩
    · simp only [List.map_map, Function.comp_def]
    -- where nothing is chosen, no field of the record depends on the value
    · cases hch : chosen? variants n with
      | none => rfl
      | some chosen =>
        rw [hch] at h
        rw [show x = y from (List.cons.inj h).1]

theorem Row.unique {code code' : Part → List UInt8 → Prop} : ∀ {ps ps' : List Part} {e e' rest rest' : List UInt8},
    Row code ps e → Row code' ps' e' → ps.map Prod.fst = ps'.map Prod.fst → e ++ rest = e' ++ rest' →
    (∀ p ∈ ps, ∀ {w e e' rest rest'}, code p e → code' (p.1, w) e' → e ++ rest = e' ++ rest' →
      p.2 = w ∧ e = e' ∧ rest = rest') → ps = ps' ∧ e = e' ∧ rest = rest'
  | _, _, _, _, _, _, .nil, .nil, _, he, _ => ⟨rfl, rfl, he⟩
  | (key, v) :: ps, (key', w) :: ps', _, _, rest, rest', .cons h hr, .cons h' hr', hk, he, hu => by
    obtain ⟨hkey, hkeys⟩ := List.cons.inj hk
    cases hkey
    rw [List.append_assoc, List.append_assoc] at he
    obtain ⟨rfl, rfl, hrest⟩ := hu _ List.mem_cons_self h h' he
    obtain ⟨rfl, rfl, rfl⟩ := hr.unique hr' hkeys hrest fun p hp => hu p (List.mem_cons_of_mem _ hp)
    exact ⟨rfl, rfl, rfl⟩

/-- Codes under one key that begin at one place are the same, and so are their values. -/
theorem Codes.unique (hk : ∀ n, k.admits n → Wire.isLength n) {e : List UInt8} (h : Codes k t key v e) :
    ∀ (w : Value) (e' rest rest' : List UInt8), Codes k t key w e' → e ++ rest = e' ++ rest' →
      v = w ∧ e = e' ∧ rest = rest' := by
  refine Codes.induct (fun hs hl hr => ?_) h
  intro w e' rest rest' h' he
  obtain ⟨front', parts', body', hl', hr', rfl⟩ := (codes_iff hs).1 h'
  rw [List.append_assoc, List.append_assoc] at he
  obtain ⟨rfl, he, hkeys, hvw⟩ := hl.front_unique hk hl' he
  obtain ⟨rfl, rfl, rfl⟩ := hr.unique hr' hkeys he fun p _ w _ _ _ _ h h' he => h.2 _ _ _ _ h' he
  exact ⟨hvw rfl, rfl, rfl⟩

/-! ## Codes of one value -/

/-- What a plain option of the table holds has no null of its own. -/
def Table.Definite (t : Table) : Prop :=
  ∀ child, .option child ∈ t.shapes → isBoxed (.option child) = false → ∀ s, t.get? child.key = some s →
    s.canBeNull = false

/-- If type names are those of containers, options are told apart from what they hold. -/
theorem Registry.Lowers.definite {r : Registry} (h : r.Lowers t) (hr : r.Declares) : t.Definite := by
  intro child hmem hb s hs
  rw [h.canBeNull_child hr hmem List.mem_cons_self hs]
  cases child with
  | option _ => cases hb
  | primitive p =>
    cases p with
    | unit => cases hb
    | _ => rfl
  | _ => rfl

theorem Typed.ne_null (h : Typed k t key v) (hs : t.get? key = some s) (hn : s.canBeNull = false) : v ≠ .null := by
  rintro rfl
  cases h with
  | mk hs' hl _ =>
    cases hs.symm.trans hs'
    generalize hv : Value.null = v at hl
    cases hl with
    | primitive ht =>
      cases ht with
      | unit => cases hn
      | _ => cases hv
    | absent _ => cases hn
    | present _ => cases hn
    | _ => cases hv

/-- A plain option marks no null as present. -/
def Shape.Marks (s : Shape) (parts : List Part) : Prop :=
  ∀ child, s = .option child → isBoxed s = false → ∀ p ∈ parts, p.2 ≠ .null

theorem Table.Definite.marks (ht : t.Definite) (hs : t.get? key = some s)
    {front : Except EncodeError (List UInt8)} {parts : List Part} (hl : Layout k s v front parts)
    (hp : ∀ p ∈ parts, Typed k t p.1 p.2) : s.Marks parts := by
  rintro child rfl hb p hmem
  have hv := hp p hmem
  rcases (layout_option_iff hb).1 hl with ⟨-, -, rfl⟩ | ⟨-, rfl⟩
  · cases hmem
  · rw [List.mem_singleton.1 hmem] at hv ⊢
    obtain ⟨s', hs'⟩ : ∃ s', t.get? child.key = some s' := by cases hv with | mk hs' _ _ => exact ⟨_, hs'⟩
    exact hv.ne_null hs' (ht child (Table.mem_of_get? hs).1 hb s' hs')

/-- A value has one layer of a shape, where no null is marked as present. -/
theorem Layout.functional {f f' : Except EncodeError (List UInt8)} {ps ps' : List Part}
    (h : Layout k s v f ps) (h' : Layout l s v f' ps') (hm : s.Marks ps) (hm' : s.Marks ps') : f = f' ∧ ps = ps' := by
  cases s with
  | primitive p =>
    obtain ⟨-, rfl, rfl⟩ := layout_primitive_iff.1 h
    obtain ⟨-, rfl, rfl⟩ := layout_primitive_iff.1 h'
    exact ⟨rfl, rfl⟩
  | reference name => exact (not_layout_reference h).elim
  | option child =>
    cases hb : isBoxed (.option child) with
    | false =>
      -- the value could be null both as absent and as present: this is what the marks exclude
      rcases (layout_option_iff hb).1 h with ⟨hv, rfl, rfl⟩ | ⟨rfl, rfl⟩ <;>
        rcases (layout_option_iff hb).1 h' with ⟨hv', rfl, rfl⟩ | ⟨rfl, rfl⟩
      · exact ⟨rfl, rfl⟩
      · exact absurd hv (hm' child rfl hb _ List.mem_cons_self)
      · exact absurd hv' (hm child rfl hb _ List.mem_cons_self)
      · exact ⟨rfl, rfl⟩
    | true =>
      rcases (layout_box_iff hb).1 h with ⟨rfl, rfl, rfl⟩ | ⟨x, rfl, rfl, rfl⟩ <;>
        rcases (layout_box_iff hb).1 h' with ⟨hv, rfl, rfl⟩ | ⟨y, hv, rfl, rfl⟩ <;> cases hv
      · exact ⟨rfl, rfl⟩
      · exact ⟨rfl, rfl⟩
  | sequence child =>
    obtain ⟨vs, _, rfl, rfl, rfl⟩ := layout_sequence_iff.1 h
    obtain ⟨ws, _, hv, rfl, rfl⟩ := layout_sequence_iff.1 h'
    cases hv
    exact ⟨rfl, rfl⟩
  | array child size =>
    obtain ⟨vs, _, rfl, rfl, rfl⟩ := layout_array_iff.1 h
    obtain ⟨ws, _, hv, rfl, rfl⟩ := layout_array_iff.1 h'
    cases hv
    exact ⟨rfl, rfl⟩
  | struct key fields =>
    obtain ⟨vs, _, hl, rfl, rfl, rfl⟩ := layout_struct_iff.1 h
    obtain ⟨ws, _, hl', hv, rfl, rfl⟩ := layout_struct_iff.1 h'
    rw [zip_inj (by rw [List.length_map, hl]) (by rw [List.length_map, hl']) (Value.record.inj hv).2.1]
    exact ⟨rfl, rfl⟩
  | simpleEnum key names =>
    obtain ⟨t, name, n, _, -, _, rfl, hf, rfl⟩ := layout_simpleEnum_iff.1 h
    obtain ⟨t', name', n', _, -, _, hv, hf', rfl⟩ := layout_simpleEnum_iff.1 h'
    cases hv
    exact ⟨hf.trans hf'.symm, rfl⟩
  | taggedEnum key variants =>
    obtain ⟨n, x, _, -, _, rfl, hf, rfl⟩ := layout_taggedEnum_iff.1 h
    obtain ⟨n', y, _, -, _, hv, hf', rfl⟩ := layout_taggedEnum_iff.1 h'
    obtain ⟨hchoice, hentries⟩ := List.cons.inj (Value.record.inj hv).2.1
    cases Int.ofNat.inj (Value.integer.inj (Prod.mk.inj hchoice).2)
    refine ⟨hf.trans hf'.symm, ?_⟩
    cases hch : chosen? variants n with
    | none => rfl
    | some chosen => rw [payloadEntries_inj hch hentries]

/-- The code of a value is that of its layer. -/
theorem codes_iff_of_layout (ht : t.Definite) (hs : t.get? key = some s) {front : Except EncodeError (List UInt8)}
    {parts : List Part} (hl : Layout k s v front parts) (hp : ∀ p ∈ parts, Typed k t p.1 p.2) {e : List UInt8} :
    Codes k t key v e ↔ ∃ f body, front = .ok f ∧ Row (fun p e => Codes k t p.1 p.2 e) parts body ∧ e = f ++ body := by
  rw [codes_iff hs]
  constructor
  · rintro ⟨f, parts', body, hl', hr, rfl⟩
    have hp' := fun p hmem => (hr.exists_of_mem p hmem).choose_spec.typed
    obtain ⟨rfl, rfl⟩ := hl.functional hl' (ht.marks hs hl hp) (ht.marks hs hl' hp')
    exact ⟨f, body, rfl, hr, rfl⟩
  · rintro ⟨f, body, rfl, hr, rfl⟩
    exact ⟨f, parts, body, hl, hr, rfl⟩

/-- A value has one code. -/
theorem Codes.functional (ht : t.Definite) {e : List UInt8} (h : Codes k t key v e) :
    ∀ e', Codes k t key v e' → e = e' := by
  refine Codes.induct (fun hs hl hr => ?_) h
  intro e' h'
  have hparts := fun p hp => (hr.exists_of_mem p hp).choose_spec.1.typed
  obtain ⟨front', parts', body', hl', hr', rfl⟩ := (codes_iff hs).1 h'
  have hparts' := fun p hp => (hr'.exists_of_mem p hp).choose_spec.typed
  obtain ⟨hf, rfl⟩ := hl.functional hl' (ht.marks hs hl hparts) (ht.marks hs hl' hparts')
  cases hf
  rw [hr.functional hr' fun p _ _ _ h h' => h.2 _ h']

/-- A value that is one of a stricter convention has the code of that convention. -/
theorem Codes.restrict (ht : t.Definite) {e : List UInt8} (h : Codes k t key v e) :
    Typed l t key v → Codes l t key v e := by
  refine Codes.induct (fun hs hl hr hv => ?_) h
  cases hv with
  | mk hs' hl' hparts' =>
    cases hs.symm.trans hs'
    have hparts := fun p hp => (hr.exists_of_mem p hp).choose_spec.1.typed
    obtain ⟨rfl, rfl⟩ := hl.functional hl' (ht.marks hs hl hparts) (ht.marks hs hl' hparts')
    exact .mk hs hl' (hr.imp fun p hp _ h => h.2 (hparts' p hp))

end SolidityWire
