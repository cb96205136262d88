/-
Codecs of more containers. What a codec does for a key hangs only on the shapes that the key leads to, and these
are the same when further containers are there: keys keep their shapes and types, values are written as before,
and bytes are read as before, with the same failures. One layer is taken off at a time, in both codecs at once;
the induction is on the rank of the key in the smaller table.
-/
import SolidityWire.Codec.Decode
import SolidityWire.Proofs.Codec.Decoding
import SolidityWire.Proofs.Codec.Encoding
import SolidityWire.Proofs.Codec.Members
import SolidityWire.Proofs.Codec.Refusal
import SolidityWire.Proofs.Shape.Extension

namespace SolidityWire

open Codec GeneratedType

namespace Codec

/-! ## Parts of codecs -/

/-- The first codec is a part of the second one: what stands under its keys, which are plain, stands there as
well, and types are made in the same edition. -/
structure PartOf (c c' : Codec) : Prop where
  sound : c.Sound
  sound' : c'.Sound
  isName : ∀ key ∈ c.table.keys, Text.IsName key
  get? : ∀ {key s}, c.table.get? key = some s → c'.table.get? key = some s
  edition : c'.edition = c.edition

/-- The codec of some containers is a part of that of more. -/
theorem partOf_of_subset {r r' : Registry} {edition : Edition} {c c' : Codec} (hc : ofRegistry r edition = .ok c)
    (hc' : ofRegistry r' edition = .ok c') (hr : r'.IsNamed) (h : r ⊆ r') : c.PartOf c' := by
  have hr₀ : r.IsNamed := hr.of_subset h
  obtain ⟨hl, hs⟩ := sound_of_ofRegistry hc hr₀
  exact ⟨hs, (sound_of_ofRegistry hc' hr).2, fun key hkey => hl.isName_key hr₀ hkey,
    Registry.get?_of_subset (lower_of_ofRegistry hc).1 (lower_of_ofRegistry hc').1 h,
    (edition_of_ofRegistry hc').trans (edition_of_ofRegistry hc).symm⟩

section PartOf

variable {c c' : Codec} (h : c.PartOf c')

include h

theorem PartOf.depth_le : c.depth ≤ c'.depth := by
  -- the depth grows with the number of shapes, and no shape is there twice
  have hsub : c.table.shapes ⊆ c'.table.shapes := fun s hs =>
    (Table.mem_of_get? (h.get? (Table.get?_eq_some_iff.2 ⟨hs, rfl⟩))).1
  have hsize : c.table.size ≤ c'.table.size := (c.table.shapes_nodup.subperm hsub).length_le
  unfold depth
  omega

theorem PartOf.entry_eq {key : String} (hkey : key ∈ c.table.keys) : ∃ s, c.table.get? key = some s ∧
    c.entry key = .ok s ∧ c'.entry key = .ok s := by
  obtain ⟨s, hs⟩ := Table.mem_keys_iff.1 hkey
  exact ⟨s, hs, h.sound.entry_eq_ok.2 hs, h.sound'.entry_eq_ok.2 (h.get? hs)⟩

/-- Types are generated alike. -/
theorem PartOf.typeOf_eq {key : String} (hkey : key ∈ c.table.keys) : c'.typeOf key = c.typeOf key := by
  obtain ⟨s, hs⟩ := Table.mem_keys_iff.1 hkey
  unfold typeOf
  rw [hs, h.get? hs]

theorem PartOf.enumOf?_eq {key : String} (hkey : key ∈ c.table.keys) : c'.enumOf? key = c.enumOf? key := by
  unfold enumOf?
  rw [h.typeOf_eq hkey]

theorem PartOf.newRecord_eq {key : String} (hkey : key ∈ c.table.keys) (given : List (String × Value)) :
    c'.newRecord key given = c.newRecord key given := by
  unfold newRecord newMember
  rw [h.typeOf_eq hkey, h.edition]

theorem PartOf.fieldOf_eq {v : Value} (hv : c.Knows v) (name : String) : c'.fieldOf v name = c.fieldOf v name := by
  cases v with
  | member key _ _ =>
    unfold fieldOf
    simp only [h.enumOf?_eq (hv List.mem_cons_self)]
  | _ => rfl

theorem PartOf.getField_eq {v : Value} (hv : c.Knows v) (name : String) : getField c' v name = getField c v name := by
  unfold getField
  rw [h.fieldOf_eq hv]

theorem PartOf.encodePrimitive_eq (p : Primitive) {v : Value} (hv : c.Knows v) :
    encodePrimitive c' p v = encodePrimitive c p v := by
  have hrenames : ∀ name, c'.renames v name = c.renames v name := fun name => by
    cases v with
    | member key _ _ =>
      unfold renames
      simp only [h.enumOf?_eq (hv List.mem_cons_self)]
    | _ => rfl
  unfold encodePrimitive
  rw [hrenames]

end PartOf

/-- The key of the shape calls one function in both codecs, of which something holds. -/
def CallsAlike (c c' : Codec) (alike : Shape → Prop) (child : Shape) : Prop :=
  ∃ f, c.function child.key = .ok f ∧ c'.function child.key = .ok f ∧ alike f

theorem CallsAlike.imp {c c' : Codec} {P Q : Shape → Prop} {child : Shape} (h : CallsAlike c c' P child)
    (hpq : ∀ f, P f → Q f) : CallsAlike c c' Q child := by
  obtain ⟨f, hf, hf', hp⟩ := h
  exact ⟨f, hf, hf', hpq f hp⟩

/-! ## Decoding -/

section Decoding

variable {c c' : Codec} {depth depth' : Nat}

theorem decodeFields_congr {decode decode' : Shape → Cursor → Decoded} : ∀ {fields : List (String × Shape)},
    (∀ field ∈ fields, CallsAlike c c' (fun f => decode' f = decode f) field.2) →
    decodeFields c' decode' fields = decodeFields c decode fields
  | [], _ => rfl
  | (name, child) :: rest, hfields => by
    obtain ⟨f, hf, hf', hd⟩ := hfields _ List.mem_cons_self
    have ih := decodeFields_congr fun field hfield => hfields field (List.mem_cons_of_mem _ hfield)
    funext cur
    simp only [decodeFields, hf, hf', ok_bind, hd, ih]

theorem decodePayload_congr {decode decode' : Shape → Cursor → Decoded} {variants : Variants} {n : Nat}
    (hchosen : ∀ chosen ∈ chosen? variants n, CallsAlike c c' (fun f => decode' f = decode f) chosen.2) :
    decodePayload c' decode' variants n = decodePayload c decode variants n := by
  funext cur
  rw [decodePayload_eq, decodePayload_eq]
  cases hch : chosen? variants n with
  | none => rfl
  | some chosen => exact congrFun (decodeFields_congr (List.forall_mem_singleton.2 (hchosen chosen hch))) cur

/-- Functions that decode alike, if they may call others as deep as is said. -/
def DecodesAlike (c c' : Codec) (depth depth' : Nat) (f : Shape) : Prop :=
  ∀ n n', depth ≤ n → depth' ≤ n' → decodeShape c' n' f = decodeShape c n f

theorem decodeItem_congr {child : Shape} (hchild : CallsAlike c c' (DecodesAlike c c' depth depth') child) :
    decodeItem c' (depth' + 1) child = decodeItem c (depth + 1) child := by
  obtain ⟨f, hf, hf', hd⟩ := hchild
  funext cur
  simp only [decodeItem, hf, hf', ok_bind, hd depth depth' le_rfl le_rfl]

/-- One layer is decoded alike if the children are. -/
theorem decodeShape_congr (hedition : c'.edition = c.edition) {s : Shape} (hs : s.isReference = false)
    (hkey : Text.IsName s.key)
    (hchildren : ∀ child ∈ s.children, CallsAlike c c' (DecodesAlike c c' depth depth') child) :
    decodeShape c' (depth' + 2) s = decodeShape c (depth + 2) s := by
  have call : ∀ child ∈ s.children, CallsAlike c c'
      (fun f => decodeShape c' (depth' + 1) f = decodeShape c (depth + 1) f) child := fun child hc =>
    (hchildren child hc).imp fun f hf => hf _ _ (Nat.le_succ _) (Nat.le_succ _)
  funext cur
  cases s with
  | reference _ => cases hs
  | primitive p => rfl
  | option child =>
    obtain ⟨f, hf, hf', hd⟩ := call child List.mem_cons_self
    rw [decodeShape, decodeShape]
    simp only [hf, hf', ok_bind, hd]
  | sequence child => rw [decodeShape, decodeShape, decodeItem_congr (hchildren child List.mem_cons_self)]
  | array child size => rw [decodeShape, decodeShape, decodeItem_congr (hchildren child List.mem_cons_self)]
  | struct key fields =>
    have hfields := decodeFields_congr fun field hfield => call field.2 (List.mem_map_of_mem hfield)
    rw [decodeShape, decodeShape, hfields]
  | simpleEnum key names =>
    rw [decodeShape, decodeShape]
    simp only [decodedMember, hedition]
  | taggedEnum key variants =>
    have hpayload : ∀ n, decodePayload c' (decodeShape c' (depth' + 1)) variants n =
        decodePayload c (decodeShape c (depth + 1)) variants n := fun n =>
      decodePayload_congr fun chosen hch => call chosen.2 (List.mem_map_of_mem (f := Prod.snd) (mem_of_chosen? hch).2)
    have hrefusal : ∀ n, c'.decodeRefusal key n = c.decodeRefusal key n := decodeRefusal_congr c' c hkey
    rw [decodeShape, decodeShape]
    simp only [hpayload, hrefusal]

end Decoding

/-- What is needed to go on with a child: it has one shape in both codecs, of lower rank. -/
theorem PartOf.child {c c' : Codec} (h : c.PartOf c') {s child : Shape} (hs : s ∈ c.table.shapes)
    (hchild : child ∈ s.children) : ∃ f ∈ c.table.shapes, c.function child.key = .ok f ∧
      c'.function child.key = .ok f ∧ c.table.rank f.key < c.table.rank s.key := by
  obtain ⟨f, hf, hcall, hrank⟩ := h.sound.child hs hchild
  obtain ⟨hmem, hkey⟩ := Table.mem_of_get? hf
  exact ⟨f, hmem, hcall, h.sound'.function (h.get? hf), hkey ▸ hrank⟩

theorem PartOf.isName_key {c c' : Codec} (h : c.PartOf c') {s : Shape} (hs : s ∈ c.table.shapes) :
    Text.IsName s.key :=
  h.isName _ (List.mem_map_of_mem hs)

/-- A shape of the first codec is decoded alike in both, if functions may call others deep enough. -/
theorem PartOf.decodeShape_eq {c c' : Codec} (h : c.PartOf c') {s : Shape} (hs : s ∈ c.table.shapes) :
    DecodesAlike c c' (2 * (c.table.rank s.key + 1)) (2 * (c.table.rank s.key + 1)) s := by
  induction hn : c.table.rank s.key using Nat.strongRecOn generalizing s with
  | ind n ih =>
    intro depth depth' hd hd'
    -- a layer takes two calls, since items are decoded by a function of their own
    obtain ⟨depth, rfl⟩ : ∃ d, depth = d + 2 := ⟨depth - 2, by omega⟩
    obtain ⟨depth', rfl⟩ : ∃ d, depth' = d + 2 := ⟨depth' - 2, by omega⟩
    refine decodeShape_congr h.edition (c.table.not_reference s hs) (h.isName_key hs) fun child hchild => ?_
    obtain ⟨f, hf, hcall, hcall', hrank⟩ := h.child hs hchild
    exact ⟨f, hcall, hcall', fun m m' hm hm' => ih _ (hn ▸ hrank) hf rfl m m' (by omega) (by omega)⟩

theorem PartOf.decodeAt_eq {c c' : Codec} (h : c.PartOf c') {key : String} (hkey : key ∈ c.table.keys) (offset : Int)
    (bytes : List UInt8) : c'.decodeAt key offset bytes = c.decodeAt key offset bytes := by
  obtain ⟨s, hs, hentry, hentry'⟩ := h.entry_eq hkey
  obtain ⟨hmem, rfl⟩ := Table.mem_of_get? hs
  have hdepth := h.sound.rank_lt_depth hs
  unfold decodeAt
  rw [hentry, hentry', ok_bind, ok_bind, h.decodeShape_eq hmem _ _ hdepth (hdepth.trans h.depth_le)]

/-! ## Encoding -/

section Encoding

variable {c c' : Codec} {depth depth' : Nat}

/-- Encoders that write the same for all values whose types the codec has. -/
def WritesAlike (c : Codec) (encode encode' : Value → Encoded) : Prop :=
  ∀ v, c.Knows v → encode' v = encode v

theorem encodeItems_congr {encode encode' : Value → Encoded} (he : c.WritesAlike encode encode') :
    ∀ {items : List Value}, (∀ x ∈ items, c.Knows x) → encodeItems encode' items = encodeItems encode items
  | [], _ => rfl
  | x :: xs, hitems => by
    rw [encodeItems, encodeItems, he x (hitems x List.mem_cons_self),
      encodeItems_congr he fun y hy => hitems y (List.mem_cons_of_mem _ hy)]

theorem encodeFields_congr (h : c.PartOf c') {encode encode' : Shape → Value → Encoded} {v : Value} (hv : c.Knows v) :
    ∀ {fields : List (String × Shape)},
      (∀ field ∈ fields, CallsAlike c c' (fun f => c.WritesAlike (encode f) (encode' f)) field.2) →
      encodeFields c' encode' v fields = encodeFields c encode v fields
  | [], _ => rfl
  | (name, child) :: rest, hfields => by
    obtain ⟨f, hf, hf', he⟩ := hfields _ List.mem_cons_self
    rw [encodeFields, encodeFields, hf, hf', ok_bind, ok_bind, h.getField_eq hv,
      encodeFields_congr h hv fun field hfield => hfields field (List.mem_cons_of_mem _ hfield)]
    refine bind_congr_of_ok fun x hx => ?_
    rw [he x (hv.field hx)]

theorem encodePayload_congr (h : c.PartOf c') {v : Value} (hv : c.Knows v) {variants : Variants} (choice : Value)
    (hpayloads : ∀ payload ∈ Shape.payloads variants, CallsAlike c c'
      (fun f => c.WritesAlike (encodeShape c depth f) (encodeShape c' depth' f)) payload.2) :
    encodePayload c' (encodeShape c' depth') v variants choice =
      encodePayload c (encodeShape c depth) v variants choice := by
  rw [encodePayload_eq, encodePayload_eq]
  refine encodeFields_congr h hv fun chosen hmem => ?_
  obtain ⟨n, -, hchosen⟩ := Option.bind_eq_some_iff.1 (Option.mem_toList.1 hmem)
  exact hpayloads (some chosen.1, chosen.2) (mem_of_chosen? hchosen).2

theorem checkChoice_congr (c c' : Codec) {key : String} (hk : Text.IsName key) (count : Nat) (v choice : Value) :
    checkChoice c' key count v choice = checkChoice c key count v choice := by
  unfold checkChoice
  rw [encodeRefusal_congr c' c hk]

/-- Functions that write alike, if they may call others as deep as is said. -/
def EncodesAlike (c c' : Codec) (depth depth' : Nat) (f : Shape) : Prop :=
  ∀ n n', depth ≤ n → depth' ≤ n' → c.WritesAlike (encodeShape c n f) (encodeShape c' n' f)

/-- One layer is written alike if the children are. -/
theorem encodeShape_congr (h : c.PartOf c') {s : Shape} (hs : s ∈ c.table.shapes)
    (hchildren : ∀ child ∈ s.children, CallsAlike c c' (EncodesAlike c c' depth depth') child) :
    c.WritesAlike (encodeShape c (depth + 1) s) (encodeShape c' (depth' + 1) s) := by
  have call : ∀ child ∈ s.children, CallsAlike c c'
      (fun f => c.WritesAlike (encodeShape c depth f) (encodeShape c' depth' f)) child := fun child hc =>
    (hchildren child hc).imp fun f hf => hf _ _ le_rfl le_rfl
  intro v hv
  -- that a part is known is told by the step that finds it, so each step is compared with what it has found
  cases s with
  | reference _ => rfl
  | primitive p =>
    rw [encodeShape, encodeShape]
    exact h.encodePrimitive_eq p hv
  | option child =>
    obtain ⟨f, hf, hf', he⟩ := call child List.mem_cons_self
    cases hb : isBoxed (.option child) with
    | true =>
      simp only [encodeShape, hb, if_true, h.getField_eq hv, hf, hf', ok_bind]
      refine bind_congr_of_ok fun flag _ => bind_congr_of_ok fun front _ => ?_
      split
      · rfl
      · refine bind_congr_of_ok fun x hx => ?_
        rw [he x (hv.field hx)]
    | false =>
      cases v with
      | null =>
        simp only [encodeShape, hb]
        rfl
      | _ => simp only [encodeShape, hb, Bool.false_eq_true, if_false, hf, hf', ok_bind, he _ hv]
  | sequence child =>
    obtain ⟨f, hf, hf', he⟩ := call child List.mem_cons_self
    rw [encodeShape, encodeShape]
    simp only [hf, hf', ok_bind]
    refine bind_congr_of_ok fun items hi => ?_
    rw [encodeItems_congr he (hv.item hi)]
  | array child size =>
    obtain ⟨f, hf, hf', he⟩ := call child List.mem_cons_self
    rw [encodeShape, encodeShape]
    simp only [hf, hf', ok_bind, h.getField_eq hv]
    refine bind_congr_of_ok fun values hx => bind_congr_of_ok fun items hi => ?_
    rw [encodeItems_congr he ((hv.field hx).item hi)]
  | struct key fields =>
    rw [encodeShape, encodeShape]
    exact encodeFields_congr h hv fun field hfield => call field.2 (List.mem_map_of_mem hfield)
  | simpleEnum key names =>
    rw [encodeShape, encodeShape]
    simp only [encodeMember, h.edition]
    rfl
  | taggedEnum key variants =>
    have hname : Text.IsName key := h.isName_key hs
    have hpayload : ∀ choice, encodePayload c' (encodeShape c' depth') v variants choice =
        encodePayload c (encodeShape c depth) v variants choice := fun choice =>
      encodePayload_congr h hv choice fun payload hp => call payload.2 (List.mem_map_of_mem hp)
    rw [encodeShape, encodeShape]
    simp only [h.getField_eq hv, hpayload, checkChoice_congr c c' hname]
    rfl

end Encoding

/-- Values with types of the first codec are written alike in both, if functions may call others deep enough. -/
theorem PartOf.encodeShape_eq {c c' : Codec} (h : c.PartOf c') {s : Shape} (hs : s ∈ c.table.shapes) :
    EncodesAlike c c' (c.table.rank s.key + 1) (c.table.rank s.key + 1) s := by
  induction hn : c.table.rank s.key using Nat.strongRecOn generalizing s with
  | ind n ih =>
    intro depth depth' hd hd'
    obtain ⟨depth, rfl⟩ : ∃ d, depth = d + 1 := ⟨depth - 1, by omega⟩
    obtain ⟨depth', rfl⟩ : ∃ d, depth' = d + 1 := ⟨depth' - 1, by omega⟩
    refine encodeShape_congr h hs fun child hchild => ?_
    obtain ⟨f, hf, hcall, hcall', hrank⟩ := h.child hs hchild
    exact ⟨f, hcall, hcall', fun m m' hm hm' => ih _ (hn ▸ hrank) hf rfl m m' (by omega) (by omega)⟩

theorem PartOf.encode_eq {c c' : Codec} (h : c.PartOf c') {key : String} (hkey : key ∈ c.table.keys) {v : Value}
    (hv : c.Knows v) : c'.encode key v = c.encode key v := by
  obtain ⟨s, hs, hentry, hentry'⟩ := h.entry_eq hkey
  obtain ⟨hmem, rfl⟩ := Table.mem_of_get? hs
  have hdepth := h.sound.rank_lt_depth hs
  have hle := h.depth_le
  unfold encode
  rw [hentry, hentry', ok_bind, ok_bind]
  exact h.encodeShape_eq hmem _ _ (by omega) (by omega) v hv

/-! ## More containers -/

/-- With more containers a codec does for each key of fewer what it did before: the key has its shape and its type,
records and members are made alike, values that are made of the types of fewer are written alike, and all bytes
are read alike, also where this fails. -/
theorem unchanged_of_subset {r r' : Registry} {edition : Edition} {c c' : Codec} (hc : ofRegistry r edition = .ok c)
    (hc' : ofRegistry r' edition = .ok c') (hr : r'.IsNamed) (hsub : r ⊆ r') :
    (∀ key s, c.table.get? key = some s → c'.table.get? key = some s) ∧
    (∀ key ∈ c.table.keys, c'.typeOf key = c.typeOf key ∧
      (∀ given, c'.newRecord key given = c.newRecord key given) ∧
      (∀ v, c.Knows v → c'.encode key v = c.encode key v) ∧
      ∀ offset bytes, c'.decodeAt key offset bytes = c.decodeAt key offset bytes) ∧
    (∀ key given v, c.newRecord key given = .ok v → (∀ p ∈ given, c.Knows p.2) → c.Knows v) ∧
    ∀ admits key v, Typed (.nulls admits) c.table key v → c.Knows v := by
  have h : c.PartOf c' := partOf_of_subset hc hc' hr hsub
  refine ⟨fun _ _ => h.get?, fun key hkey => ⟨h.typeOf_eq hkey, h.newRecord_eq hkey, fun v hv => ?_,
    fun offset bytes => ?_⟩, fun _ _ _ => knows_of_newRecord, fun _ _ _ => knows_of_typed fun _ _ => rfl⟩
  · exact h.encode_eq hkey hv
  · exact h.decodeAt_eq hkey offset bytes

/-- An enumeration, and a struct with one of its members. -/
def painted : Registry :=
  [("Colour", .enum [⟨0, "Red", .unit⟩, ⟨1, "Blue", .unit⟩]), ("Wall", .struct [("colour", .typeName "Colour")])]

/-- The same behind a container that refers to them. -/
def house : Registry :=
  ("House", .struct [("walls", .sequence (.typeName "Wall")), ("door", .option (.typeName "Colour"))]) :: painted

/-- A blue wall. -/
def blueWall : Value :=
  .record "Wall" [("colour", .member "Colour" "Blue" 1)]

/-- A wall is written and read as where there are no houses, and a colour that there is not is refused alike. -/
theorem unchanged_of_subset_house : ∃ c c', ofRegistry painted = .ok c ∧ ofRegistry house = .ok c' ∧
    c'.table.keys ≠ c.table.keys ∧ c'.encode "Wall" blueWall = .ok [1] ∧
    (∃ v, c.decodeAt "Wall" 0 [1] = .ok v ∧ c'.decodeAt "Wall" 0 [1] = .ok v) ∧
    ∃ e, c.decodeAt "Wall" 0 [2] = .error e ∧ c'.decodeAt "Wall" 0 [2] = .error e := by
  have hrun : ((ofRegistry painted).toOption.map fun c => (c.table.keys, (c.encode "Wall" blueWall).toOption,
      (c.decodeAt "Wall" 0 [1]).toOption.isSome, (c.decodeAt "Wall" 0 [2]).toOption.isSome)) =
      some (["Colour", "Wall"], some [1], true, false) := by
    decide +kernel
  have hrun' : ((ofRegistry house).toOption.map fun c => c.table.keys) =
      some ["uint64", "seq_Wall", "bool", "opt_Colour", "House", "Colour", "Wall"] := by
    decide +kernel
  obtain ⟨c, hc, he⟩ := Option.map_eq_some_iff.1 hrun
  obtain ⟨hkeys, hencode, hdecode, hrefuse⟩ : c.table.keys = _ ∧ (c.encode "Wall" blueWall).toOption = some [1] ∧
      (c.decodeAt "Wall" 0 [1]).toOption.isSome = true ∧ (c.decodeAt "Wall" 0 [2]).toOption.isSome = false := by
    simpa using he
  obtain ⟨c', hc', hkeys'⟩ := Option.map_eq_some_iff.1 hrun'
  have hunchanged := unchanged_of_subset (toOption_eq_some.1 hc) (toOption_eq_some.1 hc')
    (Registry.isNamed_of_all (by decide)) (List.subset_cons_self _ _)
  obtain ⟨-, -, hwrite, hread⟩ := hunchanged.2.1 "Wall" (by rw [hkeys]; decide)
  have hknows : c.Knows blueWall := by
    unfold Knows
    rw [hkeys]
    decide
  refine ⟨c, c', toOption_eq_some.1 hc, toOption_eq_some.1 hc', ?differ, ?encode, ?decode, ?refuse⟩
  case differ =>
    rw [hkeys, hkeys']
    decide
  case encode => rw [hwrite _ hknows, toOption_eq_some.1 hencode]
  case decode =>
    obtain ⟨v, hv⟩ := Option.isSome_iff_exists.1 hdecode
    exact ⟨v, toOption_eq_some.1 hv, (hread 0 [1]).trans (toOption_eq_some.1 hv)⟩
  case refuse =>
    cases he : c.decodeAt "Wall" 0 [2] with
    | error e => exact ⟨e, rfl, (hread 0 [2]).trans he⟩
    | ok v =>
      rw [he] at hrefuse
      cases hrefuse

end Codec

end SolidityWire
