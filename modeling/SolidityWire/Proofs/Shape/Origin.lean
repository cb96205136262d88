/-
Where the shapes that a registry needs come from, and what is known of their names. A shape is that of a container,
or it is made up for a format or a variant, and then its key is that of a primitive type or has an underscore. The
names of its fields are no reserved words, whatever the names in the registry are.
-/
import SolidityWire.Proofs.Shape.References

namespace SolidityWire

open Plan
open Solidity (safeName isReserved isReserved_of_underscore)

/-! ## Origins -/

/-- How a registry comes to need a shape: for a format that occurs, for a variant of an enumeration, or for a
container. -/
inductive Registry.Origin (r : Registry) : Shape → Prop
  | primitive (p : Primitive) : r.Origin (.primitive p)
  | option (value : Shape) : r.Origin (.option value)
  | sequence (element : Shape) : r.Origin (.sequence element)
  | array (element : Shape) (size : Int) : r.Origin (.array element size)
  | entry (key value : Shape) : r.Origin (entryStruct key value)
  | tuple (parts : List Shape) : r.Origin (tupleStruct parts)
  | variant (enumName variant : String) (fields : List (String × Format)) (ss : List Shape) :
    r.Origin (.struct (enumName ++ "_" ++ variant) (fieldShapes fields ss))
  | struct {name : String} {c : Container} (fields : List (String × Format)) (ss : List Shape) :
    (name, c) ∈ r → r.Origin (.struct name (fieldShapes fields ss))
  | simpleEnum {name : String} {vs : List IndexedVariant} : (name, .enum vs) ∈ r → vs.all (·.format.isUnit) = true →
    r.Origin (.simpleEnum name (vs.map (·.name)))
  | taggedEnum {name : String} {vs : List IndexedVariant} : (name, .enum vs) ∈ r →
    r.Origin (.taggedEnum name (vs.map (·.entry name)))

section Origins

variable {r : Registry}

theorem Format.origin {f : Format} {s : Shape} (h : s ∈ f.needs) : r.Origin s := by
  cases f with
  | primitive p =>
    cases List.mem_singleton.1 h
    exact .primitive p
  | float32 | float64 | «variable» _ | typeName _ => cases h
  | option content =>
    rcases List.mem_cons.1 h with rfl | h
    · exact .primitive .bool
    · obtain ⟨value, -, rfl⟩ := Option.map_eq_some_iff.1 (Option.mem_toList.1 h)
      exact .option value
  | sequence content =>
    rcases List.mem_cons.1 h with rfl | h
    · exact .primitive _
    · obtain ⟨element, -, rfl⟩ := Option.map_eq_some_iff.1 (Option.mem_toList.1 h)
      exact .sequence element
  | map key value =>
    simp only [needs, List.cons_append, List.mem_cons, List.mem_append, Option.mem_toList] at h
    rcases h with rfl | h | h
    · exact .primitive _
    · obtain ⟨k, -, h⟩ := Option.bind_eq_some_iff.1 h
      obtain ⟨v, -, rfl⟩ := Option.map_eq_some_iff.1 h
      exact .entry k v
    · obtain ⟨k, -, h⟩ := Option.bind_eq_some_iff.1 h
      obtain ⟨v, -, rfl⟩ := Option.map_eq_some_iff.1 h
      exact .sequence _
  | tuple contents =>
    obtain ⟨parts, -, rfl⟩ := Option.map_eq_some_iff.1 (Option.mem_toList.1 h)
    exact .tuple parts
  | array content size =>
    obtain ⟨element, -, rfl⟩ := Option.map_eq_some_iff.1 (Option.mem_toList.1 h)
    exact .array element size

theorem exists_fieldShapes {name : String} {fields : List (String × Format)} {s : Shape}
    (h : structShape? name fields = some s) : ∃ ss, s = .struct name (fieldShapes fields ss) := by
  obtain ⟨ss, -, rfl⟩ := Option.map_eq_some_iff.1 h
  exact ⟨ss, rfl⟩

theorem VariantFormat.origin {enumName variant : String} {vf : VariantFormat} {s : Shape}
    (h : s ∈ vf.needs enumName variant) : r.Origin s := by
  cases vf with
  | tuple contents =>
    obtain ⟨ss, rfl⟩ := exists_fieldShapes (Option.mem_toList.1 h)
    exact .variant enumName variant _ ss
  | struct fields =>
    obtain ⟨ss, rfl⟩ := exists_fieldShapes (Option.mem_toList.1 h)
    exact .variant enumName variant _ ss
  | _ => cases h

theorem Container.origin {name : String} {c : Container} (hc : (name, c) ∈ r) {s : Shape}
    (h : c.shape? name = some s) : r.Origin s := by
  have ofStruct : ∀ {fields}, structShape? name fields = some s → r.Origin s := fun hs => by
    obtain ⟨ss, rfl⟩ := exists_fieldShapes hs
    exact .struct _ ss hc
  cases c with
  | unitStruct => cases h
  | newTypeStruct _ | tupleStruct _ | struct _ => exact ofStruct h
  | enum vs =>
    cases hu : vs.all (·.format.isUnit) with
    | true =>
      simp only [shape?, hu, if_true, Option.some.injEq] at h
      exact h ▸ .simpleEnum hc hu
    | false =>
      simp only [shape?, hu, Bool.false_eq_true, if_false, Option.some.injEq] at h
      exact h ▸ .taggedEnum hc

/-- Each needed shape comes from a format, a variant or a container. -/
theorem Registry.Needs.origin {s : Shape} (h : r.Needs s) : r.Origin s := by
  rcases Registry.needs_iff.1 h with (⟨f, -, hs⟩ | ⟨name, c, -, hs⟩) | ⟨name, c, hc, hs⟩
  · exact Format.origin hs
  · cases c with
    | enum vs =>
      cases hu : vs.all (·.format.isUnit) with
      | true => simp [Container.besides, hu] at hs
      | false =>
        simp only [Container.besides, hu, Bool.false_eq_true, if_false] at hs
        rcases List.mem_cons.1 hs with rfl | hs
        · exact .primitive _
        · obtain ⟨v, -, hs⟩ := List.mem_flatMap.1 hs
          exact VariantFormat.origin hs
    | _ => cases hs
  · exact Container.origin hc hs

/-- Each registered shape comes from a format, a variant or a container. -/
theorem Registry.origin_of_lower {t : Table} (h : r.lower.result = .ok t) {s : Shape} (hs : s ∈ t.shapes) : r.Origin s :=
  ((Registry.mem_of_lower h s).1 hs).origin

/-- The shape of a container is registered. -/
theorem Registry.Lowers.exists_shape {t : Table} (h : r.Lowers t) {name : String} {c : Container} (hc : (name, c) ∈ r) :
    ∃ s ∈ t.shapes, c.shape? name = some s := by
  obtain ⟨inner, s, hgives, -, hs, -⟩ := h.get?_name hc
  refine ⟨s, (Table.get?_eq_some_iff.1 hs).1, ?_⟩
  cases c with
  | unitStruct => exact (gives_stop hgives).elim
  | newTypeStruct content => exact (structShape?_of_gives hgives).1
  | tupleStruct contents => exact (structShape?_of_gives (gives_unless.1 hgives).2).1
  | struct fields => exact (structShape?_of_gives (gives_unless.1 hgives).2).1
  | enum vs => exact (enumShape?_of_gives hgives).1

end Origins

/-! ## Keys -/

/-- A safe name can be declared. -/
theorem isReserved_safeName (name : String) : isReserved (safeName name) = false := by
  unfold safeName
  split
  · exact isReserved_of_underscore (by simp [String.toList_append])
  · rename_i h
    exact Bool.eq_false_iff.2 h

/-- The key of a needed shape is the name of a container, that of a primitive type, or it has an underscore. -/
theorem Registry.Origin.key {r : Registry} {s : Shape} (h : r.Origin s) :
    (∃ c, (s.key, c) ∈ r) ∨ (∃ p, s = .primitive p) ∨ '_' ∈ s.key.toList := by
  have underscore : ∀ front back : String, '_' ∈ (front ++ "_" ++ back).toList := by
    intro front back
    simp [String.toList_append]
  have tag : ∀ (word : String) (rest : String), '_' ∈ word.toList → '_' ∈ (word ++ rest).toList := by
    intro word rest hw
    rw [String.toList_append]
    exact List.mem_append_left _ hw
  cases h with
  | primitive p => exact Or.inr (Or.inl ⟨p, rfl⟩)
  | option value => exact Or.inr (Or.inr (tag "opt_" _ (by decide)))
  | sequence element => exact Or.inr (Or.inr (tag "seq_" _ (by decide)))
  | array element size => exact Or.inr (Or.inr (underscore _ _))
  | entry key value => exact Or.inr (Or.inr (underscore _ _))
  | tuple parts => exact Or.inr (Or.inr (tag "tuple_" _ (by decide)))
  | variant enumName variant fields ss => exact Or.inr (Or.inr (underscore _ _))
  | struct fields ss hc => exact Or.inl ⟨_, hc⟩
  | simpleEnum hc => exact Or.inl ⟨_, hc⟩
  | taggedEnum hc => exact Or.inl ⟨_, hc⟩

/-! ## Fields -/

namespace Shape

/-- Each variant has a field exactly if it carries something. -/
def Paired : Shape → Prop
  | taggedEnum _ variants => ∀ v ∈ variants, v.2.1.isSome = v.2.2.isSome
  | _ => True

/-- The names of the fields of the struct that stands for a shape. -/
def fieldNames : Shape → List String
  | primitive .unit => ["val"]
  | option _ => ["has_value", "value"]
  | array _ _ => ["values"]
  | struct _ fields => fields.map Prod.fst
  | taggedEnum _ variants => taggedFields variants
  | _ => []

/-- The names of the members of the enumeration that stands for a shape. -/
def memberNames : Shape → List String
  | simpleEnum _ members => members.map safeName
  | _ => []

end Shape

namespace Registry.Origin

variable {r : Registry} {s : Shape}

theorem paired (h : r.Origin s) : s.Paired := by
  cases h with
  | taggedEnum hc =>
    intro v hv
    obtain ⟨w, -, rfl⟩ := List.mem_map.1 hv
    simp [IndexedVariant.entry]
  | _ => trivial

theorem safe_fieldShapes {fields : List (String × Format)} {ss : List Shape} :
    ∀ name ∈ (fieldShapes fields ss).map Prod.fst, isReserved name = false := by
  intro name hname
  obtain ⟨field, hf, rfl⟩ := List.mem_map.1 hname
  obtain ⟨f, -, hf⟩ := List.mem_map.1 (List.of_mem_zip hf).1
  rw [← hf]
  exact isReserved_safeName _

/-- No field of a needed shape is called by a reserved word. -/
theorem fieldNames_safe (h : r.Origin s) : ∀ name ∈ s.fieldNames, isReserved name = false := by
  cases h with
  | primitive p =>
    cases p with
    | unit => exact (by decide +kernel : ∀ name ∈ ["val"], isReserved name = false)
    | _ => exact fun _ hn => nomatch hn
  | sequence _ | simpleEnum _ _ => exact fun _ hn => nomatch hn
  | option _ => exact (by decide +kernel : ∀ name ∈ ["has_value", "value"], isReserved name = false)
  | array _ _ => exact (by decide +kernel : ∀ name ∈ ["values"], isReserved name = false)
  | entry _ _ => exact (by decide +kernel : ∀ name ∈ ["key", "value"], isReserved name = false)
  | tuple parts =>
    intro name hn
    obtain ⟨field, hf, rfl⟩ := List.mem_map.1 hn
    obtain ⟨⟨part, i⟩, -, rfl⟩ := List.mem_map.1 hf
    have hsafe := isReserved_safeName ("entry" ++ toString i)
    rwa [safeName_entry] at hsafe
  | variant _ _ _ _ => exact safe_fieldShapes
  | struct _ _ _ => exact safe_fieldShapes
  | taggedEnum _ =>
    intro name hn
    rcases List.mem_cons.1 hn with rfl | hn
    · decide +kernel
    · obtain ⟨variant, hv, hname⟩ := List.mem_filterMap.1 hn
      obtain ⟨v, -, rfl⟩ := List.mem_map.1 hv
      obtain ⟨payload, -, rfl⟩ := Option.map_eq_some_iff.1 hname
      exact isReserved_safeName _

end Registry.Origin

end SolidityWire
