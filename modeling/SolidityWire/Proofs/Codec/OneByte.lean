/-
Members in one byte. A member of an enumeration without payloads is written in one byte and read back from it as
long as its ordinal fits in there, while an enumeration may be registered with any number of variants: those behind
the first 256 have no bytes.
-/
import SolidityWire.Proofs.Codec.Discriminant
import SolidityWire.Proofs.Codec.Making

namespace SolidityWire

open Codec GeneratedType Plan

namespace Codec

/-- The bytes are what is written for the value under the key, and the value is what is read from them. -/
structure Represents (c : Codec) (key : String) (v : Value) (e : List UInt8) : Prop where
  written : c.encode key v = .ok e
  read : c.decode key e = .ok v

theorem decode_eq_ok_iff {c : Codec} {key : String} {bytes : List UInt8} {v : Value} :
    c.decode key bytes = .ok v ↔ ∃ position, c.decodeAt key 0 bytes = .ok (v, ⟨position, []⟩) := by
  unfold decode
  rw [bind_eq_ok]
  constructor
  · rintro ⟨⟨v', position, rest⟩, hat, h⟩
    dsimp only at h
    split at h
    · rename_i hempty
      cases h
      exact ⟨position, List.isEmpty_iff.1 hempty ▸ hat⟩
    · cases h
  · rintro ⟨position, hat⟩
    exact ⟨_, hat, rfl⟩

/-! ## One member -/

section Member

variable {c : Codec} {name : String} {names : List String} {t : EnumType}

theorem typeOf_simpleEnum (hs : c.table.get? name = some (.simpleEnum name names))
    (ht : EnumType.ofNames (Text.asciiName name) names = .ok t) : c.typeOf name = .ok (.enum t) := by
  refine typeOf_eq_ok.2 ⟨_, hs, ?_⟩
  rw [ofShape?, ht]
  rfl

/-- A member that is written in a byte is read back from it. -/
theorem decode_member (hs : c.table.get? name = some (.simpleEnum name names))
    (hf : c.function name = .ok (.simpleEnum name names)) (ht : EnumType.ofNames (Text.asciiName name) names = .ok t)
    {n : Nat} {variant : String} (hn : t.member? n = some variant) (hlt : n < 256) :
    c.decode name [n.toUInt8] = .ok (.member name variant n) := by
  have hbyte : n.toUInt8.toNat = n := UInt8.toNat_ofNat_of_lt hlt
  have hat := @decodeAt_member c name names t [] [] hs hf ht n.toUInt8
  rw [hbyte, hn] at hat
  exact decode_eq_ok_iff.2 ⟨_, hat⟩

/-- A member has bytes exactly if the functions are its own, its type tells ordinals and there is place for the
ordinal, which is then the one byte. -/
theorem represents_member_iff (hc : c.LatestFirst) (hm : ∀ s ∈ c.table.shapes, s.Made)
    (hs : c.table.get? name = some (.simpleEnum name names)) (ht : EnumType.ofNames (Text.asciiName name) names = .ok t)
    {n : Nat} {variant : String} (hn : t.member? n = some variant) {e : List UInt8} :
    c.Represents name (.member name variant n) e ↔
      c.Serves name ∧ t.hasAttribute "__int__" = false ∧ n < 256 ∧ e = [n.toUInt8] := by
  have htype : c.typeOf name = .ok (.enum t) := typeOf_simpleEnum hs ht
  constructor
  · intro h
    -- what is read is a member of the type, as functions of another shape give none
    obtain ⟨position, hat⟩ := decode_eq_ok_iff.1 h.read
    have hserves : c.Serves name := (isInstance_iff hc hm htype hat).1 ⟨rfl, hn⟩
    obtain ⟨s, hs', hf⟩ := hserves
    cases hs.symm.trans hs'
    exact ⟨⟨_, hs, hf⟩, (encode_member hs hf ht hn).1 h.written⟩
  · rintro ⟨⟨s, hs', hf⟩, hint, hlt, rfl⟩
    cases hs.symm.trans hs'
    exact ⟨(encode_member hs hf ht hn).2 ⟨hint, hlt, rfl⟩, decode_member hs hf ht hn hlt⟩

end Member

/-! ## Enumerations of a registry -/

/-- A member of an enumeration without payloads has bytes exactly if its key has functions of its own, its type
tells ordinals and its ordinal is below 256; the bytes are then the ordinal in one byte. If no variant begins with
an underscore, all members have bytes exactly if the key has functions of its own and there are at most 256 of them. -/
theorem member_byte_iff {r : Registry} {edition : Edition} {c : Codec} (h : ofRegistry r edition = .ok c)
    {name : String} {vs : List IndexedVariant} (hc : (name, .enum vs) ∈ r) (hunit : vs.all (·.format.isUnit) = true) :
    ∃ t, c.typeOf name = .ok (.enum t) ∧
      (∀ n variant, t.member? n = some variant → ∀ e, c.Represents name (.member name variant n) e ↔
        c.Serves name ∧ t.hasAttribute "__int__" = false ∧ n < 256 ∧ e = [n.toUInt8]) ∧
      ((∀ v ∈ vs, v.name.toList.head? ≠ some '_') →
        ((∀ n variant, t.member? n = some variant → ∃ e, c.Represents name (.member name variant n) e) ↔
          c.Serves name ∧ vs.length ≤ 256)) := by
  obtain ⟨hl, hlatest, hmade⟩ := lowers_of_ofRegistry h
  have hs := hl.get?_simpleEnum hc hunit
  obtain ⟨t, ht⟩ := (hmade _ (Table.mem_of_get? hs).1).simpleEnum
  have hmember := fun n variant (hn : t.member? n = some variant) e =>
    represents_member_iff hlatest hmade hs ht hn (e := e)
  refine ⟨t, typeOf_simpleEnum hs ht, hmember, fun hnames => ?_⟩
  obtain ⟨hplaces, hattributes⟩ := EnumType.member?_of_head (List.forall_mem_map.2 hnames) ht
  have hint : t.hasAttribute "__int__" = false := by
    rw [EnumType.hasAttribute, hattributes]
    rfl
  constructor
  · intro hall
    -- the last variant has the largest ordinal
    have hpos : 0 < vs.length := List.length_pos_of_ne_nil (ne_nil_of_lowers hl hc)
    obtain ⟨v, hv⟩ : ∃ v, vs[vs.length - 1]? = some v := ⟨_, List.getElem?_eq_getElem (by omega)⟩
    have hlast : t.member? (vs.length - 1) = some v.name := by
      rw [hplaces, List.getElem?_map, hv]
      rfl
    obtain ⟨e, he⟩ := hall _ _ hlast
    obtain ⟨hserves, -, hlt, -⟩ := (hmember _ _ hlast e).1 he
    exact ⟨hserves, by omega⟩
  · rintro ⟨hserves, hle⟩ n variant hn
    have hlt : n < vs.length := by
      rw [hplaces, List.getElem?_map, Option.map_eq_some_iff] at hn
      obtain ⟨v, hv, -⟩ := hn
      exact (List.getElem?_eq_some_iff.1 hv).1
    exact ⟨_, (hmember n variant hn _).2 ⟨hserves, hint, by omega, rfl⟩⟩

/-- The second of two members is the byte 1, and the first has its byte as well. -/
theorem member_byte_iff_gapped : ("E", .enum [⟨3, "A", .unit⟩, ⟨7, "B", .unit⟩]) ∈ gapped ∧
    (∀ e, gappedCodec.Represents "E" (.member "E" "B" 1) e ↔ e = [1]) ∧
    ∃ e, gappedCodec.Represents "E" (.member "E" "A" 0) e := by
  have hmem : ("E", .enum [⟨3, "A", .unit⟩, ⟨7, "B", .unit⟩]) ∈ gapped := by simp [gapped]
  obtain ⟨t, htype, hmember, hplain⟩ := member_byte_iff ofRegistry_gapped hmem rfl
  have hgapped : gappedCodec.typeOf "E" = .ok (.enum { members := [("A", 0), ("B", 1)] }) := rfl
  cases htype.symm.trans hgapped
  have hserves : gappedCodec.Serves "E" := ⟨.simpleEnum "E" ["A", "B"], by decide, rfl⟩
  have hB := hmember 1 "B" (by decide)
  refine ⟨hmem, fun e => ⟨fun he => ((hB e).1 he).2.2.2, fun he => ?_⟩, ?_⟩
  · exact (hB e).2 ⟨hserves, by decide, by decide, he⟩
  · exact (hplain (by decide)).2 ⟨hserves, by decide⟩ 0 "A" (by decide)

/-! ## Any number of variants -/

/-- As many variants without payloads as are asked for. -/
def numbered (count : Nat) : List IndexedVariant :=
  (List.range count).map fun (n : Nat) => ⟨(n : Int), "entry" ++ toString n, .unit⟩

theorem numbered_names (count : Nat) :
    (numbered count).map (·.name) = (List.range count).map fun n => "entry" ++ toString n := by
  rw [numbered, List.map_map]
  rfl

theorem numbered_isUnit (count : Nat) : (numbered count).all (·.format.isUnit) = true := by
  rw [numbered, List.all_map, List.all_eq_true]
  exact fun _ _ => rfl

/-- An enumeration of any positive number of variants without payloads is lowered to its shape. -/
theorem lower_unitEnum {name : String} {vs : List IndexedVariant} (hne : vs ≠ [])
    (hunit : vs.all (·.format.isUnit) = true) : ∃ t, (Registry.lower [(name, .enum vs)]).result = .ok t ∧
      t.shapes = [.simpleEnum name (vs.map (·.name))] := by
  have hbody : (Container.enum vs).bodyPlan name = Plan.register (.simpleEnum name (vs.map (·.name))) := by
    rw [Container.bodyPlan, enumPlan, if_neg (by simpa using hne), if_pos hunit]
  have hplan : Registry.plan [(name, .enum vs)] =
      ⟨[.enter name, .register (.simpleEnum name (vs.map (·.name)))], .ok ()⟩ := by
    rw [Registry.plan, Container.plan, hbody]
    rfl
  refine ⟨{ shapes := [.simpleEnum name (vs.map (·.name))], not_reference := by simp [Shape.isReference] }, ?_, rfl⟩
  rw [Registry.lower, Registry.register, hplan]
  rfl

theorem isWord_entry (n : Nat) : Text.IsWord ("entry" ++ toString n) where
  isName := (show Text.IsWord "entry" by decide).isName.append (Text.isName_toString n)
  head := by
    rw [String.toList_append]
    rfl

/-- There is a codec for any positive number of variants. -/
theorem exists_ofRegistry_numbered (count : Nat) : ∃ c, ofRegistry [("E", .enum (numbered (count + 1)))] = .ok c ∧
    c.table.shapes = [.simpleEnum "E" ((numbered (count + 1)).map (·.name))] := by
  have hne : numbered (count + 1) ≠ [] := by simp [numbered]
  obtain ⟨t, ht, hshapes⟩ := @lower_unitEnum "E" _ hne (numbered_isUnit (count + 1))
  have hkey : Text.IsWord "E" := by decide
  have hnamed : ∀ s ∈ t.shapes, s.WellNamed := by
    rw [hshapes, numbered_names]
    intro s hs
    rw [List.mem_singleton.1 hs]
    refine (Shape.wellNamed_iff_of_words (s := .simpleEnum "E" _) hkey.isName fun name hname => ?_).2 ?_
    · obtain ⟨n, -, rfl⟩ := List.mem_map.1 hname
      exact isWord_entry n
    · -- the names differ in their numbers, and none is called like an operation of types
      rintro (hnodup | hmro)
      · exact hnodup (List.nodup_range.map fun _ _ => entry_injective)
      · obtain ⟨n, -, he⟩ := List.mem_map.1 hmro
        have hhead := congrArg (fun s => s.toList.head?) he
        rw [String.toList_append] at hhead
        cases hhead
  obtain ⟨c, hc⟩ := (exists_ofTable_iff (fun s hs => Solidity.hasFields_of_lower ht hs) .early).2 hnamed
  have hcodec := (ofRegistry_of_lower ht .early).trans hc
  cases ht.symm.trans (lower_of_ofRegistry hcodec).1
  exact ⟨c, hcodec, hshapes⟩

/-- Of 257 variants the last is a member of its enumeration and has no bytes. -/
theorem not_member_byte : ∃ c t, ofRegistry [("E", .enum (numbered 257))] = .ok c ∧
    (numbered 257).all (·.format.isUnit) = true ∧ c.typeOf "E" = .ok (.enum t) ∧
    t.member? 256 = some "entry256" ∧ ∀ e, c.encode "E" (.member "E" "entry256" 256) ≠ .ok e := by
  obtain ⟨c, hc, hshapes⟩ := exists_ofRegistry_numbered 256
  obtain ⟨hl, hlatest, hmade⟩ := lowers_of_ofRegistry hc
  have hs := hl.get?_simpleEnum List.mem_cons_self (numbered_isUnit 257)
  have hf : c.function "E" = .ok _ := (function_eq_ok hlatest).2 ⟨[], [], hshapes, rfl, by simp⟩
  obtain ⟨t, ht⟩ := (hmade _ (Table.mem_of_get? hs).1).simpleEnum
  have hnames : ∀ name ∈ (numbered 257).map (·.name), name.toList.head? ≠ some '_' := by
    rw [numbered_names]
    exact List.forall_mem_map.2 fun n _ => (isWord_entry n).head?_ne
  have hlast : t.member? 256 = some "entry256" := by
    rw [(EnumType.member?_of_head hnames ht).1, numbered_names, List.getElem?_map, List.getElem?_range (by decide)]
    rfl
  refine ⟨c, t, hc, numbered_isUnit 257, typeOf_simpleEnum hs ht, hlast, fun e he => ?_⟩
  obtain ⟨-, hlt, -⟩ := (encode_member hs hf ht hlast).1 he
  exact absurd hlt (by decide)

end Codec

end SolidityWire
