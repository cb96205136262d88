/-
What holds of the codec of a registry whose names are plain: a key of its table calls the functions of the
shape under it, so do the keys of all children, which have a lower rank, and every generated type can be
made.
-/
import SolidityWire.Codec.Basic
import SolidityWire.Proofs.Codec.Records
import SolidityWire.Proofs.Shape.OfRegistry

namespace SolidityWire

open Codec

/-- The codec of a registry. -/
def Codec.ofRegistry (r : Registry) (edition : Edition := .early) : Except CodecError Codec := do
  Codec.ofTable (← r.lower.result.mapError .failed) edition

/-- A codec is told by its shapes, its functions and its edition. -/
theorem Codec.ofRegistry_eq_ok {r : Registry} {edition : Edition} {c : Codec}
    (h : (ofRegistry r edition).toOption.map (fun c => (c.table.shapes, c.functions, c.edition)) =
      some (c.table.shapes, c.functions, c.edition)) : ofRegistry r edition = .ok c := by
  obtain ⟨⟨⟨shapes, _, _⟩, functions, _⟩, hc', he⟩ := Option.map_eq_some_iff.1 h
  obtain ⟨⟨_, _, _⟩, _, _⟩ := c
  cases he
  exact toOption_eq_some.1 hc'

/-- The type that is generated for the shape, if there is one, can be made. -/
def Shape.Made (s : Shape) : Prop :=
  ∀ m, GeneratedType.ofShape? s ≠ some (.error m)

namespace Shape

/-- A shape has no type or one that can be made. -/
theorem Made.type? {s : Shape} (h : s.Made) :
    GeneratedType.ofShape? s = none ∨ ∃ t, GeneratedType.ofShape? s = some (.ok t) := by
  cases ht : GeneratedType.ofShape? s with
  | none => exact Or.inl rfl
  | some g =>
    cases g with
    | error m => exact absurd ht (h m)
    | ok t => exact Or.inr ⟨t, rfl⟩

theorem nodup_of_ofRecord {t : RecordType} (h : ∀ m, some (GeneratedType.ofRecord t) ≠ some (.error m)) :
    t.names.Nodup := by
  apply RecordType.nodup_of_fault?
  unfold GeneratedType.ofRecord at h
  split at h
  · rename_i m _; exact absurd rfl (h m)
  · assumption

theorem Made.struct_nodup {key : String} {fields : List (String × Shape)} (h : (Shape.struct key fields).Made) :
    (fields.map fun field => fieldName field.1).Nodup := by
  have := nodup_of_ofRecord h
  rwa [RecordType.names, GeneratedType.structRecord, List.map_map] at this

theorem Made.tagged_nodup {key : String} {variants : List (String × Option String × Option Shape)}
    (h : (Shape.taggedEnum key variants).Made) : ("choice" :: (payloadFields variants).map fieldName).Nodup := by
  have := nodup_of_ofRecord h
  rwa [RecordType.names, GeneratedType.taggedRecord, List.map_cons, List.map_map] at this

theorem Made.simpleEnum {key : String} {names : List String} (h : (Shape.simpleEnum key names).Made) :
    ∃ t, EnumType.ofNames (Text.asciiName key) names = .ok t := by
  cases he : EnumType.ofNames (Text.asciiName key) names with
  | ok t => exact ⟨t, rfl⟩
  | error m => exact absurd (by rw [GeneratedType.ofShape?, he]; rfl) (h m)

end Shape

namespace Codec

/-- What the functions of a codec rely on. -/
structure Sound (c : Codec) : Prop where
  grounded : c.table.Grounded
  function : ∀ {key s}, c.table.get? key = some s → c.function key = .ok s
  size : ∀ {element n}, .array element n ∈ c.table.shapes → 0 ≤ n
  made : ∀ s ∈ c.table.shapes, s.Made

/-- The codec has functions for all shapes of its table, under their ASCII names and the latest first. -/
def LatestFirst (c : Codec) : Prop :=
  c.functions = (c.table.shapes.map fun s => (Text.asciiName s.key, s)).reverse

section OfRegistry

variable {r : Registry} {edition : Edition} {c : Codec}

theorem edition_of_ofRegistry (h : ofRegistry r edition = .ok c) : c.edition = edition := by
  obtain ⟨t, -, h⟩ := bind_eq_ok.1 h
  unfold ofTable at h
  split at h
  · cases h
  · cases h; rfl

/-- A codec of a registry is made of the table that the registry is lowered to, if the types can be made. -/
theorem lower_of_ofRegistry (h : ofRegistry r edition = .ok c) :
    r.lower.result = .ok c.table ∧ c.LatestFirst ∧ ∀ s ∈ c.table.shapes, s.Made := by
  obtain ⟨t, ht, h⟩ := bind_eq_ok.1 h
  unfold ofTable at h
  split at h
  · cases h
  rename_i hfault
  cases h
  refine ⟨mapError_eq_ok.1 ht, rfl, fun s hs m hm => ?_⟩
  rw [Option.or_eq_none_iff] at hfault
  have := List.findSome?_eq_none_iff.1 hfault.1 s hs
  rw [hm] at this
  cases this

/-- A codec of a registry has the registry's table, the functions of all shapes in it, and types that can be
made. -/
theorem lowers_of_ofRegistry (h : ofRegistry r edition = .ok c) :
    r.Lowers c.table ∧ c.LatestFirst ∧ ∀ s ∈ c.table.shapes, s.Made := by
  obtain ⟨ht, hrest⟩ := lower_of_ofRegistry h
  exact ⟨Registry.lowers_of_lower ht, hrest⟩

/-- A codec of a registry is sound if its keys have different ASCII names. -/
theorem sound_of_nodup (h : ofRegistry r edition = .ok c)
    (hn : (c.table.keys.map Text.asciiName).Nodup) : c.Sound := by
  obtain ⟨hl, hfunctions, hmade⟩ := lowers_of_ofRegistry h
  refine ⟨hl.grounded, fun {key s} hs => ?_, fun hmem => (hl.lowered.proper _ hmem).size _ _ rfl, hmade⟩
  obtain ⟨hmem, rfl⟩ := Table.mem_of_get? hs
  have hnodup : (c.functions.map Prod.fst).Nodup := by
    rw [hfunctions, List.map_reverse, List.nodup_reverse, List.map_map]
    rwa [Table.keys, List.map_map] at hn
  have hfunction : (Text.asciiName s.key, s) ∈ c.functions := by
    rw [hfunctions, List.mem_reverse]
    exact List.mem_map.2 ⟨s, hmem, rfl⟩
  unfold Codec.function function?
  rw [lookup_of_mem hnodup hfunction]

/-- A codec of a registry has the registry's table, and is sound if names are plain. -/
theorem sound_of_ofRegistry (h : ofRegistry r edition = .ok c) (hr : r.IsNamed) :
    r.Lowers c.table ∧ c.Sound := by
  have hl := (lowers_of_ofRegistry h).1
  refine ⟨hl, sound_of_nodup h ?_⟩
  have hkeys : c.table.keys.map Text.asciiName = c.table.keys.map id :=
    List.map_congr_left fun key hkey => (hl.isName_key hr hkey).asciiName_eq
  rw [hkeys, List.map_id]
  exact c.table.keys_nodup

end OfRegistry

/-- The type of a key is that of the shape under it. -/
theorem typeOf_eq_ok {c : Codec} {key : String} {t : GeneratedType} :
    c.typeOf key = .ok t ↔ ∃ s, c.table.get? key = some s ∧ GeneratedType.ofShape? s = some (.ok t) := by
  unfold typeOf
  cases hs : c.table.get? key with
  | none => simp
  | some s =>
    rw [Option.bind_some]
    cases ht : GeneratedType.ofShape? s with
    | none => simp [ht]
    | some g => cases g <;> simp [ht]

namespace Sound

variable {c : Codec}

/-- The key of a child calls the functions of the shape under it, which has a lower rank. -/
theorem child (hc : c.Sound) {s child : Shape} (hs : s ∈ c.table.shapes) (hchild : child ∈ s.children) :
    ∃ f, c.table.get? child.key = some f ∧ c.function child.key = .ok f ∧
      c.table.rank child.key < c.table.rank s.key := by
  have hd := Table.depends_child hs hchild
  obtain ⟨f, hf⟩ := Table.mem_keys_iff.1 (hc.grounded.closed hd)
  exact ⟨f, hf, hc.function hf, hc.grounded.rank_lt hd⟩

theorem entry_eq_ok (hc : c.Sound) {key : String} {s : Shape} :
    c.entry key = .ok s ↔ c.table.get? key = some s := by
  unfold entry
  split
  · rename_i h
    obtain ⟨s', hs'⟩ := Table.mem_keys_iff.1 (Table.contains_iff.1 h)
    rw [hc.function hs', hs', Option.some.injEq, Except.ok.injEq]
  · rename_i h
    rw [Table.contains_iff, ← Table.get?_eq_none_iff] at h
    rw [h]
    exact ⟨fun h => (nomatch h), fun h => (nomatch h)⟩

/-- Functions can be called deep enough for every key, even where each call counts twice. -/
theorem rank_lt_depth (hc : c.Sound) {key : String} {s : Shape} (hs : c.table.get? key = some s) :
    2 * (c.table.rank key + 1) ≤ c.depth := by
  have h := hc.grounded.rank_lt_size (Table.mem_keys_iff.2 ⟨s, hs⟩)
  unfold depth
  omega

end Sound

end Codec

end SolidityWire
