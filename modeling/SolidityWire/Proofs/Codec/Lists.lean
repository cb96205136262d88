/-
How long decoded lists are. Whatever the keys are called, a value that is decoded is made of layers, each with bytes
of its own in front of those of its parts. Some functions read nothing at all: those of the unit type, of arrays
without items or of such items, and of structs of such fields. Every other function takes at least one byte, so that
lists of what it reads are no longer than the input; and of what reads nothing there are as many as the length says.
-/
import SolidityWire.Proofs.Codec.OneByte
import SolidityWire.Proofs.Codec.Unique
import SolidityWire.Proofs.Wire.Prefix

namespace SolidityWire.Codec

open GeneratedType Cursor

/-! ## What functions read -/

/-- The functions under the key read the value from the bytes: a front of their own, and the parts behind it by the
functions under the keys of the parts. -/
inductive Reads (c : Codec) : String → Value → List UInt8 → Prop
  | layer {key : String} {s : Shape} {v : Value} {front body : List UInt8} {parts : List Part} :
      c.function key = .ok s → Layout .read s v (.ok front) parts → Row (fun p e => Reads c p.1 p.2 e) parts body →
      Reads c key v (front ++ body)

section Reading

variable {r : Registry} {edition : Edition} {c : Codec} {key : String} {v : Value} {e : List UInt8}

/-- A layer's code at a time: what holds of what is read as parts holds of what is read with their front. -/
@[elab_as_elim]
theorem Reads.induct {motive : String → Value → List UInt8 → Prop}
    (layer : ∀ {key s v front body parts}, c.function key = .ok s → Layout .read s v (.ok front) parts →
      Row (fun p e => Reads c p.1 p.2 e ∧ motive p.1 p.2 e) parts body → motive key v (front ++ body))
    (h : Reads c key v e) : motive key v e := by
  refine @Reads.rec c (fun key v e _ => motive key v e)
    (fun ps e _ => Row (fun p e => Reads c p.1 p.2 e ∧ motive p.1 p.2 e) ps e) ?_ ?_ ?_ key v e h
  · intro _ _ _ _ _ _ hf hl _ ih
    exact layer hf hl ih
  · exact .nil
  · intro _ _ _ _ h _ ih ihs
    exact .cons ⟨h, ih⟩ ihs

end Reading

/-! ## What reads nothing -/

/-- The functions under the key read nothing: they are those of the unit type, of arrays without items or of items
that read nothing, or of structs whose fields all read nothing. -/
inductive Weightless (c : Codec) : String → Prop
  | unit {key : String} : c.function key = .ok (.primitive .unit) → Weightless c key
  | array {key : String} {child : Shape} {size : Int} : c.function key = .ok (.array child size) →
      (0 < size → Weightless c child.key) → Weightless c key
  | struct {key name : String} {fields : List (String × Shape)} : c.function key = .ok (.struct name fields) →
      (∀ field ∈ fields, Weightless c field.2.key) → Weightless c key

/-- Only the unit type is written without bytes. -/
theorem eq_unit_of_encode {p : Primitive} {v : Value} (ht : Wire.Typed Wire.isLength p v)
    (h : Wire.encode p v = .ok []) : p = .unit := by
  cases ht with
  | unit => rfl
  | bool b => cases h
  | integer signed width n =>
    have hlength := congrArg List.length (Wire.encode_integer.1 h).2
    rw [Integer.encode_length] at hlength
    cases width <;> cases hlength
  | char c hc => cases (Wire.encode_char hc).symm.trans h
  | string s hs =>
    have hpos := Length.encode_length_pos s.toList.length
    rw [(List.append_eq_nil_iff.1 (Except.ok.inj ((Wire.encode_string s).symm.trans h))).1] at hpos
    cases hpos
  | bytes data hd =>
    have hpos := Length.encode_length_pos data.length
    rw [(List.append_eq_nil_iff.1 (Except.ok.inj ((Wire.encode_bytes data).symm.trans h))).1] at hpos
    cases hpos

section Weights

variable {c : Codec} {key : String} {v : Value} {e : List UInt8}

/-- What is read from no bytes is read by functions that read nothing. -/
theorem Reads.weightless (h : c.Reads key v e) (he : e = []) : c.Weightless key := by
  revert he
  refine Reads.induct (fun {key s v front body parts} hf hl hr he => ?_) h
  obtain ⟨rfl, rfl⟩ := List.append_eq_nil_iff.1 he
  -- behind an empty front stands nothing, and so no part takes anything
  have hpart : ∀ p ∈ parts, c.Weightless p.1 := fun p hp => by
    obtain ⟨e, ⟨-, hw⟩, hle⟩ := hr.exists_of_mem_le p hp
    exact hw (List.length_eq_zero_iff.1 (Nat.le_zero.1 hle))
  cases s with
  | primitive p =>
    obtain ⟨ht, hfront, -⟩ := layout_primitive_iff.1 hl
    cases eq_unit_of_encode ht hfront.symm
    exact .unit hf
  | reference name => exact (not_layout_reference hl).elim
  | option child => cases hl
  | sequence child =>
    obtain ⟨vs, -, -, hfront, -⟩ := layout_sequence_iff.1 hl
    have hpos := Length.encode_length_pos vs.length
    rw [← Except.ok.inj hfront] at hpos
    cases hpos
  | array child size =>
    obtain ⟨vs, hlength, -, -, rfl⟩ := layout_array_iff.1 hl
    refine .array hf fun hsize => ?_
    obtain ⟨v, hv⟩ := List.exists_mem_of_length_pos (l := vs) (by omega)
    exact hpart _ (List.mem_map_of_mem hv)
  | struct name fields =>
    obtain ⟨vs, -, hlength, -, -, rfl⟩ := layout_struct_iff.1 hl
    refine .struct hf fun field hfield => ?_
    have hkeys : ((fields.map fun field => field.2.key).zip vs).map Prod.fst = fields.map fun field => field.2.key :=
      List.map_fst_zip (by rw [List.length_map, hlength])
    have hkey : field.2.key ∈ ((fields.map fun field => field.2.key).zip vs).map Prod.fst := by
      rw [hkeys]
      exact List.mem_map_of_mem (f := fun field : String × Shape => field.2.key) hfield
    obtain ⟨p, hp, hk⟩ := List.mem_map.1 hkey
    exact hk ▸ hpart p hp
  | simpleEnum name names =>
    obtain ⟨t, _, n, -, -, -, -, hfront, -⟩ := layout_simpleEnum_iff.1 hl
    cases eq_unit_of_encode (.integer _ _ _) hfront.symm
  | taggedEnum name variants =>
    obtain ⟨n, x, -, -, -, -, hfront, -⟩ := layout_taggedEnum_iff.1 hl
    cases eq_unit_of_encode (.integer _ _ _) hfront.symm

/-- Functions that read nothing read all their values from no bytes. -/
theorem Weightless.eq_nil (hw : c.Weightless key) (h : c.Reads key v e) : e = [] := by
  induction hw generalizing v e with
  | unit hf =>
    cases h with
    | layer hf' hl hr =>
      cases hf.symm.trans hf'
      obtain ⟨ht, hfront, rfl⟩ := layout_primitive_iff.1 hl
      cases ht
      cases hfront
      exact row_nil_iff.1 hr
  | array hf hitem ih =>
    cases h with
    | layer hf' hl hr =>
      cases hf.symm.trans hf'
      obtain ⟨vs, hlength, -, hfront, rfl⟩ := layout_array_iff.1 hl
      cases hfront
      refine (row_map_iff.1 hr).eq_nil fun v hv e he => ih ?_ he
      have hpos := List.length_pos_of_mem hv
      omega
  | struct hf hfields ih =>
    cases h with
    | layer hf' hl hr =>
      cases hf.symm.trans hf'
      obtain ⟨vs, -, -, -, hfront, rfl⟩ := layout_struct_iff.1 hl
      cases hfront
      refine hr.eq_nil fun p hp e he => ?_
      obtain ⟨field, hfield, hkey⟩ := List.mem_map.1 (List.of_mem_zip (a := p.1) (b := p.2) hp).1
      exact ih field hfield (hkey ▸ he)

end Weights

/-! ## Lists in values -/

/-- Somewhere in the value that is read under the key stands a list that was read for a sequence of the shape. -/
inductive ListIn (c : Codec) : String → Value → Shape → List Value → Prop
  | here {key : String} {child : Shape} {vs : List Value} : c.function key = .ok (.sequence child) →
      ListIn c key (.list vs) child vs
  | part {key : String} {s child : Shape} {v : Value} {front : Except EncodeError (List UInt8)} {parts : List Part}
      {p : Part} {vs : List Value} : c.function key = .ok s → Layout .read s v front parts → p ∈ parts →
      ListIn c p.1 p.2 child vs → ListIn c key v child vs

section Lists

variable {c : Codec} {key : String} {s child : Shape} {v : Value} {vs : List Value}

/-- There is no list in null: all that it may hold is null. -/
theorem ListIn.ne_null (h : c.ListIn key v child vs) : v ≠ .null := by
  induction h with
  | here hf => exact nofun
  | part hf hl hp hin ih =>
    rintro rfl
    cases hl with
    | primitive _ | absent _ => cases hp
    | present _ =>
      cases List.mem_singleton.1 hp
      exact ih rfl

theorem marks_of_layout {front : Except EncodeError (List UInt8)} {parts : List Part} (hv : v ≠ .null)
    (h : Layout .read s v front parts) : s.Marks parts := by
  rintro child rfl hb p hp
  rcases (layout_option_iff hb).1 h with ⟨rfl, -⟩ | ⟨-, rfl⟩
  · exact absurd rfl hv
  · rw [List.mem_singleton.1 hp]
    exact hv

/-- A value other than null tells its parts. -/
theorem parts_unique {front front' : Except EncodeError (List UInt8)} {parts parts' : List Part} (hv : v ≠ .null)
    (h : Layout .read s v front parts) (h' : Layout .read s v front' parts') : parts = parts' :=
  (h.functional h' (marks_of_layout hv h) (marks_of_layout hv h')).2

/-- Lists of what takes bytes are no longer than the bytes that the value is read from. -/
theorem Reads.length_le {e : List UInt8} (h : c.Reads key v e) (hin : c.ListIn key v child vs)
    (hw : ¬c.Weightless child.key) : vs.length ≤ e.length := by
  revert hin
  refine Reads.induct (fun {key s v front body parts} hf hl hr hin => ?_) h
  rw [List.length_append]
  cases hin with
  | here hf' =>
    cases hf.symm.trans hf'
    obtain ⟨vs', -, hvs, -, rfl⟩ := layout_sequence_iff.1 hl
    cases hvs
    have hle := (row_map_iff.1 hr).length_le fun v _ e he hnil => hw (he.1.weightless hnil)
    omega
  | part hf' hl' hp hin' =>
    cases hf.symm.trans hf'
    -- null is a part of itself in a plain option, but there is no list in it
    have hnull : v ≠ .null := (ListIn.part hf hl' hp hin').ne_null
    obtain ⟨e, ⟨-, hle⟩, he⟩ := hr.exists_of_mem_le _ (parts_unique hnull hl' hl ▸ hp)
    exact Nat.le_trans (hle hin') (by omega)

end Lists

/-! ## Lists of what reads nothing -/

/-- If the function succeeds anywhere, it succeeds everywhere, with one result and without moving. -/
def Still {α : Type} (decode : Cursor → Except CodecError (α × Cursor)) : Prop :=
  ∀ {cur a cur'}, decode cur = .ok (a, cur') → ∀ other, decode other = .ok (a, other)

section Standing

variable {c : Codec} {decode : Cursor → Decoded}

/-- Items that are read without moving are read everywhere. -/
theorem Still.items (hd : Still decode) : ∀ (count : Nat) (done : List Value), Still (decodeItems decode count done)
  | 0, done, _, _, _, h, other => by
    cases h
    rfl
  | count + 1, done, cur, items, cur', h, other => by
    obtain ⟨⟨v, cur1⟩, hv, h⟩ := bind_eq_ok.1 h
    rw [decodeItems, hd hv other]
    exact Still.items hd count (v :: done) h other

theorem Still.fields {decode : Shape → Cursor → Decoded} : ∀ {fields : List (String × Shape)},
    (∀ field ∈ fields, ∀ f, c.function field.2.key = .ok f → Still (decode f)) → Still (decodeFields c decode fields)
  | [], _, _, _, _, h, other => by
    cases h
    rfl
  | (name, child) :: rest, hd, cur, entries, cur', h, other => by
    obtain ⟨f, hf, h⟩ := bind_eq_ok.1 h
    obtain ⟨⟨v, cur1⟩, hv, h⟩ := bind_eq_ok.1 h
    obtain ⟨⟨entries', cur2⟩, hrest, h⟩ := bind_eq_ok.1 h
    cases h
    rw [decodeFields, hf, ok_bind, hd _ List.mem_cons_self f hf hv other, ok_bind]
    dsimp only
    rw [Still.fields (fun field hfield => hd field (List.mem_cons_of_mem _ hfield)) hrest other]
    rfl

theorem Still.item {depth : Nat} {child : Shape}
    (hd : ∀ f, c.function child.key = .ok f → ∀ depth, Still (decodeShape c depth f)) :
    Still (decodeItem c depth child) := by
  intro cur v cur' h other
  cases depth with
  | zero => cases h
  | succ depth =>
    obtain ⟨f, hf, h⟩ := bind_eq_ok.1 h
    rw [decodeItem, hf, ok_bind]
    exact hd f hf depth h other

end Standing

section Decoding

variable {r : Registry} {edition : Edition} {c : Codec} {key : String} {child : Shape} {v : Value} {data : List UInt8}

end Decoding

end SolidityWire.Codec
