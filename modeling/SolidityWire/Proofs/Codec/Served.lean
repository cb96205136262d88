/-
Which shapes the functions of a codec follow, whatever characters its names hold. Functions go by the ASCII
names of keys, so that keys with one ASCII name share the functions of the latest shape among them. A key
that has functions of its own gives instances of its type; one that has not gives none, under no key at all.
-/
import SolidityWire.Proofs.Codec.Decoding
import SolidityWire.Proofs.Codec.Encoding

namespace SolidityWire

open Codec GeneratedType

/-! ## Instances -/

/-- The key of the type that a record or a member is of. -/
def Value.typeKey? : Value → Option String
  | .record key _ _ | .member key _ _ => some key
  | _ => none

/-- The value is an instance of the type that is generated for the key: a record with its fields, or one of
its members. -/
def Value.IsInstance (key : String) : GeneratedType → Value → Prop
  | .record t, .record key' entries _ => key' = key ∧ entries.map Prod.fst = t.names
  | .enum t, .member key' name n => key' = key ∧ t.member? n = some name
  | _, _ => False

theorem Value.IsInstance.typeKey? {key : String} {t : GeneratedType} {v : Value} (h : v.IsInstance key t) :
    v.typeKey? = some key := by
  cases t <;> cases v <;> first | exact congrArg some h.1 | exact h.elim

namespace Codec

/-- A record that is made has the fields of its type. -/
theorem RecordType.fill_map_fst {given : List (String × Value)} : ∀ {fields : List RecordField}
    {entries : List (String × Value)}, fill given fields = .ok entries →
      entries.map Prod.fst = fields.map RecordField.name
  | [], _, h => by
    cases h
    rfl
  | f :: fields, _, h => by
    rw [fill] at h
    split at h
    · obtain ⟨entries, he, h⟩ := bind_eq_ok.1 h
      cases h
      rw [List.map_cons, List.map_cons, fill_map_fst he]
    · obtain ⟨entries, he, h⟩ := bind_eq_ok.1 h
      cases h
      rw [List.map_cons, List.map_cons, fill_map_fst he]
    · cases h

theorem RecordType.isInstance_of_make {t : RecordType} {key : String} {given : List (String × Value)} {v : Value}
    (h : t.make key given = .ok v) : v.IsInstance key (.record t) := by
  unfold make at h
  split at h
  · obtain ⟨entries, he, h⟩ := bind_eq_ok.1 h
    split at h
    · cases h
    · cases h
      exact ⟨rfl, fill_map_fst he⟩
  · cases h

theorem isInstance_of_decodedRecord {t : RecordType} {key : String} {given : List (String × Value)}
    {cur cur' : Cursor} {v : Value} (h : decodedRecord t key given cur = .ok (v, cur')) :
    v.IsInstance key (.record t) := by
  rw [decodedRecord, mapError_eq_ok, map_eq_ok] at h
  obtain ⟨v', hv, he⟩ := h
  cases he
  exact RecordType.isInstance_of_make hv

variable {c : Codec}

/-- The functions of a shape with a type give its instances. -/
theorem isInstance_of_decodeShape {s : Shape} {t : GeneratedType} (ht : ofShape? s = some (.ok t)) {depth : Nat}
    {cur cur' : Cursor} {v : Value} (h : decodeShape c depth s cur = .ok (v, cur')) : v.IsInstance s.key t := by
  obtain ⟨depth, rfl⟩ : ∃ d, depth = d + 1 := by
    cases depth with
    | zero => cases h
    | succ d => exact ⟨d, rfl⟩
  cases s with
  | primitive _ => cases ht
  | reference _ => cases ht
  | sequence _ => cases ht
  | option child =>
    rw [ofShape?] at ht
    split at ht
    · rename_i hb
      rw [ofRecord_eq_ok (Option.some.inj ht)]
      rcases decodeShape_option.1 h with ⟨-, rfl⟩ | ⟨_, _, _, -, -, -, rfl⟩ <;>
      · rw [if_pos hb]
        exact ⟨rfl, rfl⟩
    · cases ht
  | array child size =>
    rw [ofRecord_eq_ok (Option.some.inj ht)]
    obtain ⟨_, -, h⟩ := bind_eq_ok.1 h
    exact isInstance_of_decodedRecord h
  | struct key fields =>
    rw [ofRecord_eq_ok (Option.some.inj ht)]
    obtain ⟨_, -, h⟩ := bind_eq_ok.1 h
    exact isInstance_of_decodedRecord h
  | simpleEnum key names =>
    obtain ⟨_, -, h⟩ := bind_eq_ok.1 h
    obtain ⟨e, name, he, hn, rfl, -⟩ := decodedMember_eq_ok.1 h
    rw [ofShape?, he] at ht
    cases ht
    exact ⟨rfl, hn⟩
  | taggedEnum key variants =>
    rw [ofRecord_eq_ok (Option.some.inj ht)]
    obtain ⟨⟨choice, cur1⟩, -, h⟩ := bind_eq_ok.1 h
    dsimp only at h
    split at h
    · cases h
    · obtain ⟨_, -, h⟩ := bind_eq_ok.1 h
      exact isInstance_of_decodedRecord h

/-! ## Functions -/

/-- The functions under a key are those of the shape that is registered under it. -/
def Serves (c : Codec) (key : String) : Prop :=
  ∃ s, c.table.get? key = some s ∧ c.function key = .ok s

theorem function_eq_ok_iff {key : String} {s : Shape} :
    c.function key = .ok s ↔ c.functions.lookup (Text.asciiName key) = some s := by
  unfold Codec.function function?
  cases c.functions.lookup (Text.asciiName key) <;> simp

/-- The functions under a key are those of the latest shape with its ASCII name. -/
theorem function_eq_ok (hc : c.LatestFirst) {key : String} {s : Shape} : c.function key = .ok s ↔
    ∃ front back, c.table.shapes = front ++ s :: back ∧ Text.asciiName s.key = Text.asciiName key ∧
      ∀ s' ∈ back, Text.asciiName s'.key ≠ Text.asciiName key := by
  rw [function_eq_ok_iff, hc, List.lookup_eq_some_iff]
  constructor
  · rintro ⟨later, earlier, hl, hne⟩
    simp only [List.reverse_eq_iff, List.reverse_append, List.reverse_cons, List.append_assoc, List.singleton_append,
      List.map_eq_append_iff, List.map_eq_cons_iff] at hl
    obtain ⟨front, _, hshapes, -, s', back, rfl, he, hback⟩ := hl
    obtain ⟨hkey, rfl⟩ := Prod.mk.inj he
    refine ⟨front, back, hshapes, hkey, fun x hx hk => ?_⟩
    have hmem : (Text.asciiName x.key, x) ∈ later := by
      rw [← List.mem_reverse, ← hback]
      exact List.mem_map.2 ⟨x, hx, rfl⟩
    simpa [hk] using hne _ hmem
  · rintro ⟨front, back, hshapes, hk, hne⟩
    refine ⟨(back.map fun s => (Text.asciiName s.key, s)).reverse,
      (front.map fun s => (Text.asciiName s.key, s)).reverse, ?_, fun p hp => ?_⟩
    · simp [hshapes, hk]
    · obtain ⟨s', hs', rfl⟩ := List.mem_map.1 (List.mem_reverse.1 hp)
      simpa using (hne s' hs').symm

/-- Functions go by ASCII names. -/
theorem function_congr {key key' : String} (h : Text.asciiName key = Text.asciiName key') :
    c.function key = c.function key' := by
  unfold Codec.function function?
  rw [h]

/-- What is called under some key is called under its own key. -/
theorem serves_of_function (hc : c.LatestFirst) {key : String} {s : Shape} (h : c.function key = .ok s) :
    c.Serves s.key ∧ c.table.get? s.key = some s ∧ Text.asciiName s.key = Text.asciiName key := by
  obtain ⟨front, back, hshapes, hk, -⟩ := (function_eq_ok hc).1 h
  have hs : c.table.get? s.key = some s := by
    rw [Table.get?_eq_some_iff, hshapes]
    exact ⟨List.mem_append_right _ List.mem_cons_self, rfl⟩
  refine ⟨⟨s, hs, ?_⟩, hs, hk⟩
  rw [function_congr hk, h]

theorem typeKey?_of_typed {admits : Nat → Prop} {p : Primitive} {v : Value} (h : Wire.Typed admits p v) :
    v.typeKey? = none := by
  cases h <;> rfl

/-- An option without a record is read as null behind one flag, and as what it holds behind the other. -/
theorem decodeShape_plain {child : Shape} (hb : isBoxed (.option child) = false) {depth : Nat} {cur cur' : Cursor}
    {v : Value} : decodeShape c (depth + 1) (.option child) cur = .ok (v, cur') ↔
      cur.Past [0] cur' ∧ v = .null ∨ ∃ cur1 f, cur.Past [1] cur1 ∧ c.function child.key = .ok f ∧
        decodeShape c depth f cur1 = .ok (v, cur') := by
  rw [decodeShape_option, hb]
  refine or_congr_right (exists_congr fun cur1 => exists_congr fun f => ?_)
  exact ⟨fun ⟨x, hp, hf, hx, he⟩ => ⟨hp, hf, he ▸ hx⟩, fun ⟨hp, hf, hx⟩ => ⟨v, hp, hf, hx, rfl⟩⟩

/-- The functions of a shape without a type give what a primitive or a list is, null, or what the functions of
another shape give. -/
theorem decodeShape_untyped {s : Shape} (ht : ofShape? s = none) {depth : Nat} {cur cur' : Cursor} {v : Value}
    (h : decodeShape c (depth + 1) s cur = .ok (v, cur')) :
    (∃ p, s = .primitive p ∧ Wire.Typed Wire.isLength p v) ∨ (∃ child items, s = .sequence child ∧ v = .list items) ∨
      ∃ child, s = .option child ∧ isBoxed (.option child) = false ∧
        (v = .null ∨ ∃ cur1 f, c.function child.key = .ok f ∧ decodeShape c depth f cur1 = .ok (v, cur')) := by
  cases s with
  | primitive p =>
    rw [decodeShape] at h
    obtain ⟨_, ⟨htyped, -⟩, -⟩ := (read_accepts (Wire.decode_accepts p) cur v cur').1 h
    exact Or.inl ⟨p, rfl, htyped⟩
  | sequence child =>
    obtain ⟨_, -, h⟩ := bind_eq_ok.1 h
    obtain ⟨⟨items, cur1⟩, -, h⟩ := bind_eq_ok.1 h
    cases h
    exact Or.inr (Or.inl ⟨child, items, rfl, rfl⟩)
  | option child =>
    have hb : isBoxed (.option child) = false := by
      rw [ofShape?] at ht
      split at ht
      · cases ht
      · rename_i hb
        simpa using hb
    refine Or.inr (Or.inr ⟨child, rfl, hb, ?_⟩)
    rcases (decodeShape_plain hb).1 h with ⟨-, rfl⟩ | ⟨cur1, f, -, hf, hx⟩
    · exact Or.inl rfl
    · exact Or.inr ⟨cur1, f, hf, hx⟩
  | reference _ => cases h
  | _ => cases ht

/-- A record or member that is decoded, at any depth of calls, is of a type whose key has functions of its
own. -/
theorem serves_of_decodeShape (hc : c.LatestFirst) (hm : ∀ s ∈ c.table.shapes, s.Made) :
    ∀ {depth : Nat} {s : Shape} {cur cur' : Cursor} {v : Value} {key : String}, s ∈ c.table.shapes → c.Serves s.key →
      decodeShape c depth s cur = .ok (v, cur') → v.typeKey? = some key → c.Serves key
  | 0, _, _, _, _, _, _, _, h, _ => nomatch h
  | depth + 1, s, cur, cur', v, key, hs, hserves, h, hv => by
    rcases (hm s hs).type? with ht | ⟨t, ht⟩
    · rcases decodeShape_untyped ht h with ⟨p, rfl, htyped⟩ | ⟨_, _, -, rfl⟩ | ⟨child, rfl, -, rfl | ⟨cur1, f, hf, hx⟩⟩
      · rw [typeKey?_of_typed htyped] at hv
        cases hv
      · cases hv
      · cases hv
      · -- what the option holds is decoded by the functions of another shape
        obtain ⟨hserves', hget, -⟩ := serves_of_function hc hf
        exact serves_of_decodeShape hc hm (Table.mem_of_get? hget).1 hserves' hx hv
    · -- the type is that of the shape
      have hkey := (isInstance_of_decodeShape ht h).typeKey?
      rw [hv] at hkey
      rwa [Option.some.inj hkey]

/-! ## Keys and their types -/

theorem entry_of_mem {key : String} (hk : key ∈ c.table.keys) : c.entry key = c.function key := by
  unfold entry
  rw [if_pos (Table.contains_iff.2 hk)]

/-- What is decoded behind other bytes is what the functions under the key read there. -/
theorem decodeAt_of_function {key : String} {s : Shape} (hk : key ∈ c.table.keys) (hf : c.function key = .ok s)
    (before rest : List UInt8) :
    c.decodeAt key before.length (before ++ rest) = decodeShape c c.depth s ⟨before.length, rest⟩ := by
  have hat : Cursor.at? (before.length : Int) (before ++ rest) = .ok ⟨before.length, rest⟩ := by
    unfold Cursor.at?
    rw [if_pos (by simp only [List.length_append]; omega), Int.toNat_natCast, List.drop_left]
  unfold decodeAt
  rw [entry_of_mem hk, hf, ok_bind, hat]
  rfl

/-- Functions may call others. -/
theorem exists_depth (c : Codec) : c.depth = c.depth - 1 + 1 := by
  unfold depth
  omega

/-- What is decoded under a key with a type is an instance of it exactly if the key has functions of its
own. -/
theorem isInstance_iff (hc : c.LatestFirst) (hm : ∀ s ∈ c.table.shapes, s.Made) {key : String} {t : GeneratedType}
    (ht : c.typeOf key = .ok t) {offset : Int} {bytes : List UInt8} {v : Value} {cur : Cursor}
    (h : c.decodeAt key offset bytes = .ok (v, cur)) : v.IsInstance key t ↔ c.Serves key := by
  obtain ⟨f, hf, h⟩ := bind_eq_ok.1 h
  obtain ⟨cur', -, h⟩ := bind_eq_ok.1 h
  obtain ⟨s, hs, hshape⟩ := typeOf_eq_ok.1 ht
  rw [entry_of_mem (Table.mem_keys_iff.2 ⟨s, hs⟩)] at hf
  constructor
  · intro hi
    obtain ⟨hserves, hget, -⟩ := serves_of_function hc hf
    exact serves_of_decodeShape hc hm (Table.mem_of_get? hget).1 hserves h hi.typeKey?
  · rintro ⟨s', hs', hf'⟩
    cases hs.symm.trans hs'
    cases hf.symm.trans hf'
    rw [← (Table.mem_of_get? hs).2]
    exact isInstance_of_decodeShape hshape h

end Codec

end SolidityWire
