/-
The formats of a registry, at any depth, and what is asked of its names.
-/
import SolidityWire.Proofs.Text.AsciiName
import SolidityWire.Schema.Basic

namespace SolidityWire

/-- The formats that a variant lists. -/
def VariantFormat.contents : VariantFormat → List Format
  | .unit | .variable _ => []
  | .newType content => [content]
  | .tuple contents => contents
  | .struct fields => fields.map Prod.snd

mutual

/-- The type names in a format. -/
def Format.typeNames : Format → List String
  | .typeName name => [name]
  | .option content | .sequence content | .array content _ => content.typeNames
  | .map key value => key.typeNames ++ value.typeNames
  | .tuple contents => Format.allTypeNames contents
  | _ => []
termination_by structural f => f

/-- The type names in several formats. -/
def Format.allTypeNames : List Format → List String
  | [] => []
  | f :: fs => f.typeNames ++ Format.allTypeNames fs
termination_by structural fs => fs

end

theorem Format.mem_allTypeNames {name : String} {f : Format} (h : name ∈ f.typeNames) : ∀ {fs : List Format}, f ∈ fs →
    name ∈ allTypeNames fs
  | _ :: _, hf => by
    rw [allTypeNames, List.mem_append]
    rcases List.mem_cons.1 hf with rfl | hf
    · exact Or.inl h
    · exact Or.inr (mem_allTypeNames h hf)

/-- The formats that a container lists. -/
def Container.contents : Container → List Format
  | .unitStruct => []
  | .newTypeStruct content => [content]
  | .tupleStruct contents => contents
  | .struct fields => fields.map Prod.snd
  | .enum variants => variants.flatMap (·.format.contents)

/-- The variants of a container. -/
def Container.variants : Container → List IndexedVariant
  | .enum variants => variants
  | _ => []

namespace Registry

/-- A format occurs in a registry: a container lists it, or it stands in one that occurs. -/
inductive Occurs (r : Registry) : Format → Prop
  | content {name : String} {c : Container} {f : Format} : (name, c) ∈ r → f ∈ c.contents → Occurs r f
  | option {f : Format} : Occurs r (.option f) → Occurs r f
  | sequence {f : Format} : Occurs r (.sequence f) → Occurs r f
  | mapKey {key value : Format} : Occurs r (.map key value) → Occurs r key
  | mapValue {key value : Format} : Occurs r (.map key value) → Occurs r value
  | tuple {fs : List Format} {f : Format} : Occurs r (.tuple fs) → f ∈ fs → Occurs r f
  | array {f : Format} {size : Nat} : Occurs r (.array f size) → Occurs r f

/-- The names of the containers and of their variants are made of ASCII letters, digits and underscores;
those of fields may be any. -/
structure IsNamed (r : Registry) : Prop where
  container : ∀ name c, (name, c) ∈ r → Text.IsName name
  variant : ∀ name c, (name, c) ∈ r → ∀ v ∈ c.variants, Text.IsName v.name

/-- Names can be checked. -/
theorem isNamed_of_all {r : Registry} (h : r.all fun (name, c) =>
    name.toList.all Text.isNameChar && c.variants.all fun v => v.name.toList.all Text.isNameChar) : r.IsNamed := by
  simp only [List.all_eq_true, Bool.and_eq_true, Prod.forall] at h
  exact ⟨fun name c hc => (h name c hc).1, fun name c hc v hv => (h name c hc).2 v hv⟩

/-- Every type name that occurs is that of a container. -/
def Declares (r : Registry) : Prop :=
  ∀ name, r.Occurs (.typeName name) → ∃ c, (name, c) ∈ r

/-- A type name in a format that occurs is one in a format that a container lists. -/
theorem Occurs.exists_of_mem_typeNames {r : Registry} {name : String} {f : Format} (h : r.Occurs f)
    (hname : name ∈ f.typeNames) : ∃ p ∈ r, ∃ g ∈ p.2.contents, name ∈ g.typeNames := by
  induction h with
  | content hc hf => exact ⟨_, hc, _, hf, hname⟩
  | option _ ih | sequence _ ih | array _ ih => exact ih hname
  | mapKey _ ih => exact ih (List.mem_append_left _ hname)
  | mapValue _ ih => exact ih (List.mem_append_right _ hname)
  | tuple _ hf ih => exact ih (Format.mem_allTypeNames hname hf)

/-- Type names can be checked. -/
theorem declares_of_all {r : Registry}
    (h : r.all fun p => p.2.contents.all fun f => f.typeNames.all fun name => r.any (·.1 == name)) : r.Declares := by
  intro name ho
  obtain ⟨p, hp, g, hg, hname⟩ := ho.exists_of_mem_typeNames List.mem_cons_self
  simp only [List.all_eq_true] at h
  obtain ⟨⟨_, c⟩, hc, he⟩ := List.any_eq_true.1 (h p hp g hg name hname)
  cases beq_iff_eq.1 he
  exact ⟨c, hc⟩

/-- The variants of each enumeration are listed by increasing index, as they are when a registry is read. -/
def Ordered (r : Registry) : Prop :=
  ∀ name c, (name, c) ∈ r → c.variants.Pairwise fun v w => v.index < w.index

/-- Indices can be checked. -/
theorem ordered_of_all {r : Registry}
    (h : r.all fun p => decide (p.2.variants.Pairwise fun v w => v.index < w.index)) : r.Ordered := by
  simp only [List.all_eq_true, decide_eq_true_eq] at h
  exact fun name c hc => h (name, c) hc

end Registry

end SolidityWire
