/-
Plans of formats and containers, taken apart: what a plan registers and leads to, from what the plans
of its parts register and lead to.
-/
import SolidityWire.Proofs.Shape.Plan
import SolidityWire.Shape.Lowering

namespace SolidityWire

open Plan

/-! ## Formats -/

theorem entryNames_map_snd {α : Type} (parts : List α) : (entryNames parts).map Prod.snd = parts := by
  unfold entryNames
  rw [List.map_map]
  exact List.zipIdx_map_fst ..

theorem tupleStruct_children (parts : List Shape) : (tupleStruct parts).children = parts := by
  exact entryNames_map_snd parts

theorem gives_primitive {p : Primitive} {shapes : List Shape} {s : Shape} :
    (Format.primitive p).plan.Gives shapes s ↔ shapes = [.primitive p] ∧ s = .primitive p :=
  gives_register

theorem gives_typeName {name : String} {shapes : List Shape} {s : Shape} :
    (Format.typeName name).plan.Gives shapes s ↔ shapes = [] ∧ s = .reference name :=
  gives_pure

theorem gives_option {content : Format} {shapes : List Shape} {s : Shape} :
    (Format.option content).plan.Gives shapes s ↔ ∃ inner value, content.plan.Gives inner value ∧
      shapes = [.primitive .bool] ++ inner ++ [.option value] ∧ s = .option value := by
  simp only [Format.plan, registerPrimitive, gives_bind, gives_register]
  constructor
  · rintro ⟨_, _, _, ⟨rfl, rfl⟩, ⟨value, inner, _, hc, ⟨rfl, rfl⟩, rfl⟩, rfl⟩
    exact ⟨inner, value, hc, (List.append_assoc ..).symm, rfl⟩
  · rintro ⟨inner, value, hc, rfl, rfl⟩
    exact ⟨_, _, _, ⟨rfl, rfl⟩, ⟨value, inner, _, hc, ⟨rfl, rfl⟩, rfl⟩, List.append_assoc ..⟩

theorem gives_sequence {content : Format} {shapes : List Shape} {s : Shape} :
    (Format.sequence content).plan.Gives shapes s ↔ ∃ inner element, content.plan.Gives inner element ∧
      shapes = [.primitive (.integer false .w64)] ++ inner ++ [.sequence element] ∧ s = .sequence element := by
  simp only [Format.plan, registerCount, registerPrimitive, gives_bind, gives_register]
  constructor
  · rintro ⟨_, _, _, ⟨rfl, rfl⟩, ⟨element, inner, _, hc, ⟨rfl, rfl⟩, rfl⟩, rfl⟩
    exact ⟨inner, element, hc, (List.append_assoc ..).symm, rfl⟩
  · rintro ⟨inner, element, hc, rfl, rfl⟩
    exact ⟨_, _, _, ⟨rfl, rfl⟩, ⟨element, inner, _, hc, ⟨rfl, rfl⟩, rfl⟩, List.append_assoc ..⟩

theorem gives_map {key value : Format} {shapes : List Shape} {s : Shape} :
    (Format.map key value).plan.Gives shapes s ↔ ∃ ks k vs v, key.plan.Gives ks k ∧ value.plan.Gives vs v ∧
      shapes = [.primitive (.integer false .w64)] ++ ks ++ vs ++ [entryStruct k v] ++ [.sequence (entryStruct k v)] ∧
      s = .sequence (entryStruct k v) := by
  simp only [Format.plan, registerCount, registerPrimitive, gives_bind, gives_register, gives_step]
  constructor
  · rintro ⟨_, _, _, ⟨rfl, rfl⟩, ⟨k, ks, _, hk, ⟨v, vs, _, hv, ⟨_, _, _, rfl, ⟨rfl, rfl⟩, rfl⟩, rfl⟩, rfl⟩, rfl⟩
    exact ⟨ks, k, vs, v, hk, hv, by simp [Step.shape?], rfl⟩
  · rintro ⟨ks, k, vs, v, hk, hv, rfl, rfl⟩
    exact ⟨_, _, _, ⟨rfl, rfl⟩, ⟨k, ks, _, hk, ⟨v, vs, _, hv, ⟨(), _, _, rfl, ⟨rfl, rfl⟩, rfl⟩, rfl⟩, rfl⟩,
      by simp [Step.shape?]⟩

theorem gives_plans_cons {f : Format} {fs : List Format} {shapes ss : List Shape} :
    (Format.plans (f :: fs)).Gives shapes ss ↔ ∃ front s back ss', f.plan.Gives front s ∧
      (Format.plans fs).Gives back ss' ∧ shapes = front ++ back ∧ ss = s :: ss' := by
  simp only [Format.plans, gives_bind, gives_pure]
  constructor
  · rintro ⟨s, front, _, hf, ⟨ss', back, _, hfs, ⟨rfl, rfl⟩, rfl⟩, rfl⟩
    exact ⟨front, s, back, ss', hf, hfs, by rw [List.append_nil], rfl⟩
  · rintro ⟨front, s, back, ss', hf, hfs, rfl, rfl⟩
    exact ⟨s, front, _, hf, ⟨ss', back, _, hfs, ⟨rfl, rfl⟩, rfl⟩, by rw [List.append_nil]⟩

theorem gives_plans_nil {shapes ss : List Shape} : (Format.plans []).Gives shapes ss ↔ shapes = [] ∧ ss = [] :=
  gives_pure

/-- Each of several formats leads to the shape at its place. -/
theorem gives_plans_zip : ∀ {fs : List Format} {shapes ss : List Shape}, (Format.plans fs).Gives shapes ss →
    ss.length = fs.length ∧ ∀ p ∈ fs.zip ss, ∃ inner, p.1.plan.Gives inner p.2 ∧ inner ⊆ shapes
  | [], _, _, h => by
    obtain ⟨rfl, rfl⟩ := gives_plans_nil.1 h
    exact ⟨rfl, fun _ h => nomatch h⟩
  | f :: fs, _, _, h => by
    obtain ⟨front, s, back, ss, hf, hfs, rfl, rfl⟩ := gives_plans_cons.1 h
    obtain ⟨hl, ih⟩ := gives_plans_zip hfs
    refine ⟨congrArg Nat.succ hl, fun p hp => ?_⟩
    rcases List.mem_cons.1 hp with rfl | hp
    · exact ⟨front, hf, List.subset_append_left ..⟩
    · obtain ⟨inner, hi, hsub⟩ := ih p hp
      exact ⟨inner, hi, List.Subset.trans hsub (List.subset_append_right ..)⟩

theorem gives_tuple {contents : List Format} {shapes : List Shape} {s : Shape} :
    (Format.tuple contents).plan.Gives shapes s ↔ contents ≠ [] ∧ ∃ inner parts,
      (Format.plans contents).Gives inner parts ∧ shapes = inner ++ [tupleStruct parts] ∧ s = tupleStruct parts := by
  cases contents with
  | nil => exact ⟨fun h => (gives_stop h).elim, fun h => (h.1 rfl).elim⟩
  | cons content contents =>
    simp only [Format.plan, gives_bind, gives_register, gives_plans_cons]
    constructor
    · rintro ⟨part, front, _, hf, ⟨parts, back, _, hfs, ⟨rfl, rfl⟩, rfl⟩, rfl⟩
      exact ⟨List.cons_ne_nil _ _, _, _, ⟨front, part, back, parts, hf, hfs, rfl, rfl⟩,
        (List.append_assoc ..).symm, rfl⟩
    · rintro ⟨-, _, _, ⟨front, part, back, parts, hf, hfs, rfl, rfl⟩, rfl, rfl⟩
      exact ⟨part, front, _, hf, ⟨parts, back, _, hfs, ⟨rfl, rfl⟩, rfl⟩, List.append_assoc ..⟩

theorem gives_array {content : Format} {size : Nat} {shapes : List Shape} {s : Shape} :
    (Format.array content size).plan.Gives shapes s ↔ Text.isTooLong size = false ∧ ∃ inner element,
      content.plan.Gives inner element ∧ shapes = inner ++ [.array element size] ∧ s = .array element size := by
  simp only [Format.plan, gives_bind]
  cases Text.isTooLong size with
  | true =>
    simp only [if_true, Bool.true_eq_false, false_and, iff_false]
    rintro ⟨_, _, _, _, h, _⟩
    exact gives_stop h
  | false =>
    simp only [Bool.false_eq_true, if_false, true_and, gives_register]
    constructor
    · rintro ⟨element, inner, _, hc, ⟨rfl, rfl⟩, rfl⟩; exact ⟨inner, element, hc, rfl, rfl⟩
    · rintro ⟨inner, element, hc, rfl, rfl⟩; exact ⟨element, inner, _, hc, ⟨rfl, rfl⟩, rfl⟩

/-! ## Structs and enumerations -/

/-- The fields of the struct for named formats with the shapes of the formats. -/
def fieldShapes (fields : List (String × Format)) (ss : List Shape) : List (String × Shape) :=
  (fields.map fun field => Solidity.safeName field.1).zip ss

theorem gives_fieldsPlan : ∀ {fields : List (String × Format)} {shapes : List Shape} {named : List (String × Shape)},
    (fieldsPlan fields).Gives shapes named ↔ ∃ ss, (Format.plans (fields.map Prod.snd)).Gives shapes ss ∧
      named = fieldShapes fields ss
  | [], shapes, named => by
    rw [fieldsPlan, gives_pure]
    constructor
    · rintro ⟨rfl, rfl⟩; exact ⟨[], gives_plans_nil.2 ⟨rfl, rfl⟩, rfl⟩
    · rintro ⟨ss, h, rfl⟩; exact ⟨(gives_plans_nil.1 h).1, rfl⟩
  | (name, f) :: rest, shapes, named => by
    simp only [fieldsPlan, gives_bind, gives_pure, @gives_fieldsPlan rest, List.map_cons, gives_plans_cons]
    constructor
    · rintro ⟨s, front, _, hf, ⟨_, back, _, ⟨ss, hfs, rfl⟩, ⟨rfl, rfl⟩, rfl⟩, rfl⟩
      exact ⟨s :: ss, ⟨front, s, back, ss, hf, hfs, by rw [List.append_nil], rfl⟩, rfl⟩
    · rintro ⟨_, ⟨front, s, back, ss, hf, hfs, rfl, rfl⟩, rfl⟩
      exact ⟨s, front, _, hf, ⟨_, back, _, ⟨ss, hfs, rfl⟩, ⟨rfl, rfl⟩, rfl⟩, by rw [List.append_nil]⟩

theorem gives_structPlan {name : String} {fields : List (String × Format)} {shapes : List Shape} {s : Shape} :
    (structPlan name fields).Gives shapes s ↔ ∃ inner ss, (Format.plans (fields.map Prod.snd)).Gives inner ss ∧
      ((fieldShapes fields ss).map Prod.fst).Nodup ∧ shapes = inner ++ [.struct name (fieldShapes fields ss)] ∧
      s = .struct name (fieldShapes fields ss) := by
  rw [structPlan, gives_bind]
  constructor
  · rintro ⟨named, inner, _, hf, h, rfl⟩
    obtain ⟨ss, hfs, rfl⟩ := gives_fieldsPlan.1 hf
    split at h
    · rename_i hn
      obtain ⟨rfl, rfl⟩ := gives_register.1 h
      exact ⟨inner, ss, hfs, hn, rfl, rfl⟩
    · exact (gives_stop h).elim
  · rintro ⟨inner, ss, hfs, hn, rfl, rfl⟩
    refine ⟨_, inner, _, gives_fieldsPlan.2 ⟨ss, hfs, rfl⟩, ?_, rfl⟩
    rw [if_pos hn]
    exact gives_register.2 ⟨rfl, rfl⟩

theorem gives_variantsPlan_cons {enumName : String} {v : IndexedVariant} {rest : List IndexedVariant}
    {shapes : List Shape} {variants : List (String × Option String × Option Shape)} :
    (variantsPlan enumName (v :: rest)).Gives shapes variants ↔ ∃ front payload back variants',
      (v.format.plan enumName v.name).Gives front payload ∧ (variantsPlan enumName rest).Gives back variants' ∧
      shapes = front ++ back ∧
      variants = (v.name, payload.map fun _ => payloadField v.name, payload) :: variants' := by
  simp only [variantsPlan, gives_bind, gives_pure]
  constructor
  · rintro ⟨payload, front, _, hp, ⟨variants', back, _, hv, ⟨rfl, rfl⟩, rfl⟩, rfl⟩
    exact ⟨front, payload, back, variants', hp, hv, by rw [List.append_nil], rfl⟩
  · rintro ⟨front, payload, back, variants', hp, hv, rfl, rfl⟩
    exact ⟨payload, front, _, hp, ⟨variants', back, _, hv, ⟨rfl, rfl⟩, rfl⟩, by rw [List.append_nil]⟩

/-- An enumeration becomes a simple or a tagged one. -/
theorem gives_enumPlan {name : String} {vs : List IndexedVariant} {shapes : List Shape} {s : Shape}
    (h : (enumPlan name vs).Gives shapes s) :
    (vs.all (·.format.isUnit) = true ∧ shapes = [.simpleEnum name (vs.map (·.name))] ∧
      s = .simpleEnum name (vs.map (·.name))) ∨
    vs.all (·.format.isUnit) = false ∧ ∃ inner variants, (variantsPlan name vs).Gives inner variants ∧
      (taggedFields variants).Nodup ∧
      shapes = inner ++ [.primitive (.integer false .w64)] ++ [.taggedEnum name variants] ∧
      s = .taggedEnum name variants := by
  unfold enumPlan at h
  split at h
  · exact (gives_stop h).elim
  split at h
  · rename_i hu
    exact Or.inl ⟨hu, gives_register.1 h⟩
  · rename_i hu
    obtain ⟨variants, inner, back, hv, h, hs⟩ := gives_bind.1 h
    split at h
    · rename_i hn
      obtain ⟨_, _, _, h1, h2, rfl⟩ := gives_bind.1 h
      obtain ⟨rfl, -⟩ := gives_register.1 h1
      obtain ⟨rfl, rfl⟩ := gives_register.1 h2
      exact Or.inr ⟨by simpa using hu, inner, variants, hv, hn, by rw [hs, List.append_assoc], rfl⟩
    · exact (gives_stop h).elim

end SolidityWire
