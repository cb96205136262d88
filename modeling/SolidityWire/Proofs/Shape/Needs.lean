/-
What lowering asks of a registry, read off its formats and containers: the shape that a format has, the
shapes that are needed for it, and what has to hold of every format and every container. A plan that
comes to its end registers the shapes that are needed, and it comes to its end exactly if what is asked
of the formats and containers holds.
-/
import SolidityWire.Proofs.Shape.OfRegistry
import SolidityWire.Proofs.Solidity.Reserved

namespace SolidityWire

open Plan
open Solidity (safeName)

/-! ## The shapes of formats and containers -/

/-- The shape of lengths and choices. -/
def Shape.count : Shape :=
  .primitive (.integer false .w64)

mutual

/-- The shape of a format, if all formats in it have one. -/
def Format.shape? : Format → Option Shape
  | .primitive p => some (.primitive p)
  | .float32 | .float64 | .variable _ => none
  | .typeName name => some (.reference name)
  | .option content => content.shape?.map .option
  | .sequence content => content.shape?.map .sequence
  | .map key value => key.shape?.bind fun k => value.shape?.map fun v => .sequence (entryStruct k v)
  | .tuple contents => (Format.shapes? contents).map tupleStruct
  | .array content size => content.shape?.map fun element => .array element size
termination_by structural f => f

/-- The shapes of several formats, if all have one. -/
def Format.shapes? : List Format → Option (List Shape)
  | [] => some []
  | f :: fs => f.shape?.bind fun s => (Format.shapes? fs).map fun ss => s :: ss
termination_by structural fs => fs

end

/-- The shape of a struct with the given fields. -/
def structShape? (name : String) (fields : List (String × Format)) : Option Shape :=
  (Format.shapes? (fields.map Prod.snd)).map fun ss => .struct name (fieldShapes fields ss)

/-- The shape of what a variant carries. -/
def VariantFormat.shape? (enumName variant : String) : VariantFormat → Option Shape
  | .unit | .variable _ => none
  | .newType content => content.shape?
  | .tuple contents => structShape? (enumName ++ "_" ++ variant) (entryNames contents)
  | .struct fields => structShape? (enumName ++ "_" ++ variant) fields

/-- A variant as a tagged enumeration has it. -/
def IndexedVariant.entry (enumName : String) (v : IndexedVariant) : String × Option String × Option Shape :=
  let payload := v.format.shape? enumName v.name
  (v.name, payload.map fun _ => payloadField v.name, payload)

/-- The shape under the name of a container. -/
def Container.shape? (name : String) : Container → Option Shape
  | .unitStruct => none
  | .newTypeStruct content => structShape? name [("value", content)]
  | .tupleStruct contents => structShape? name (entryNames contents)
  | .struct fields => structShape? name fields
  | .enum variants =>
    if variants.all (·.format.isUnit) then some (.simpleEnum name (variants.map (·.name)))
    else some (.taggedEnum name (variants.map (·.entry name)))

/-! ## What is needed -/

/-- The shapes that a format needs besides those that the formats in it need. -/
def Format.needs : Format → List Shape
  | .typeName _ => []
  | .option content => .primitive .bool :: (Format.option content).shape?.toList
  | .sequence content => .count :: (Format.sequence content).shape?.toList
  | .map key value =>
    .count :: (key.shape?.bind fun k => value.shape?.map (entryStruct k)).toList ++ (Format.map key value).shape?.toList
  | f => f.shape?.toList

/-- The shape of its own that a variant needs. -/
def VariantFormat.needs (enumName variant : String) : VariantFormat → List Shape
  | .tuple contents => ((VariantFormat.tuple contents).shape? enumName variant).toList
  | .struct fields => ((VariantFormat.struct fields).shape? enumName variant).toList
  | _ => []

/-- The shapes that a container needs besides those that the formats in it need. -/
def Container.needs (name : String) : Container → List Shape
  | .enum variants =>
    if variants.all (·.format.isUnit) then ((Container.enum variants).shape? name).toList
    else .count :: (variants.flatMap fun v => v.format.needs name v.name) ++ ((Container.enum variants).shape? name).toList
  | c => (c.shape? name).toList

/-- A registry needs the shapes that its formats and containers need. -/
def Registry.Needs (r : Registry) (s : Shape) : Prop :=
  (∃ f, r.Occurs f ∧ s ∈ f.needs) ∨ ∃ name c, (name, c) ∈ r ∧ s ∈ c.needs name

/-! ## What is asked -/

/-- Whether a format is of a kind that has a shape. -/
def Format.isExpressible : Format → Bool
  | .float32 | .float64 | .variable _ | .tuple [] => false
  | _ => true

/-- Whether what a variant carries is of a kind that has a shape. -/
def VariantFormat.isExpressible : VariantFormat → Bool
  | .variable _ | .tuple [] | .struct [] => false
  | _ => true

/-- Whether a container and its variants are of a kind that has a shape. -/
def Container.isExpressible : Container → Bool
  | .unitStruct | .tupleStruct [] | .struct [] | .enum [] => false
  | .enum variants => variants.all (·.format.isExpressible)
  | _ => true

/-- Whether the number of items of an array can be written into a key. -/
def Format.isWritable : Format → Bool
  | .array _ size => !Text.isTooLong size
  | _ => true

/-- Safe names of fields are distinct. -/
def DistinctFields (fields : List (String × Format)) : Prop :=
  (fields.map fun field => safeName field.1).Nodup

/-- The fields of a struct-like variant are distinct. -/
def VariantFormat.Distinct : VariantFormat → Prop
  | .struct fields => DistinctFields fields
  | _ => True

/-- The names of the payload fields of an enumeration. -/
def payloadNames (variants : List IndexedVariant) : List String :=
  (variants.filter fun v => !v.format.isUnit).map fun v => payloadField v.name

/-- The fields of a struct are distinct, and so are those of a struct-like variant; in an enumeration that
carries something, so are the choice and the payload fields. -/
def Container.Distinct : Container → Prop
  | .struct fields => DistinctFields fields
  | .enum variants => (∀ v ∈ variants, v.format.Distinct) ∧
      (variants.all (·.format.isUnit) = false → ("choice" :: payloadNames variants).Nodup)
  | _ => True

/-! ## Plans and shapes -/

mutual

theorem shape?_of_gives : ∀ (f : Format) {shapes : List Shape} {s : Shape}, f.plan.Gives shapes s → f.shape? = some s
  | .primitive p, _, _, h => by
    obtain ⟨-, rfl⟩ := gives_primitive.1 h
    rfl
  | .float32, _, _, h => (gives_stop h).elim
  | .float64, _, _, h => (gives_stop h).elim
  | .variable _, _, _, h => (gives_stop h).elim
  | .typeName name, _, _, h => by
    obtain ⟨-, rfl⟩ := gives_typeName.1 h
    rfl
  | .option content, _, _, h => by
    obtain ⟨inner, value, hc, -, rfl⟩ := gives_option.1 h
    simp [Format.shape?, shape?_of_gives content hc]
  | .sequence content, _, _, h => by
    obtain ⟨inner, element, hc, -, rfl⟩ := gives_sequence.1 h
    simp [Format.shape?, shape?_of_gives content hc]
  | .map key value, _, _, h => by
    obtain ⟨ks, k, vs, v, hk, hv, -, rfl⟩ := gives_map.1 h
    simp [Format.shape?, shape?_of_gives key hk, shape?_of_gives value hv]
  | .tuple contents, _, _, h => by
    obtain ⟨-, inner, parts, hc, -, rfl⟩ := gives_tuple.1 h
    simp [Format.shape?, shapes?_of_gives contents hc]
  | .array content size, _, _, h => by
    obtain ⟨-, inner, element, hc, -, rfl⟩ := gives_array.1 h
    simp [Format.shape?, shape?_of_gives content hc]

theorem shapes?_of_gives : ∀ (fs : List Format) {shapes ss : List Shape}, (Format.plans fs).Gives shapes ss →
    Format.shapes? fs = some ss
  | [], _, _, h => by
    obtain ⟨-, rfl⟩ := gives_plans_nil.1 h
    rfl
  | f :: fs, _, _, h => by
    obtain ⟨front, s, back, ss, hf, hfs, -, rfl⟩ := gives_plans_cons.1 h
    simp [Format.shapes?, shape?_of_gives f hf, shapes?_of_gives fs hfs]

end

/-- A plan of a format registers what the format needs, and the format is as it should be. -/
theorem needs_of_gives {f : Format} {shapes : List Shape} {s : Shape} (h : f.plan.Gives shapes s) :
    f.needs ⊆ shapes ∧ f.isExpressible = true ∧ f.isWritable = true := by
  have hs := shape?_of_gives f h
  cases f with
  | float32 => exact (gives_stop h).elim
  | float64 => exact (gives_stop h).elim
  | «variable» _ => exact (gives_stop h).elim
  | typeName _ => exact ⟨List.nil_subset _, rfl, rfl⟩
  | primitive p =>
    obtain ⟨rfl, rfl⟩ := gives_primitive.1 h
    exact ⟨List.Subset.refl _, rfl, rfl⟩
  | option content =>
    obtain ⟨inner, value, -, rfl, rfl⟩ := gives_option.1 h
    refine ⟨?_, rfl, rfl⟩
    simp [Format.needs, hs]
  | sequence content =>
    obtain ⟨inner, element, -, rfl, rfl⟩ := gives_sequence.1 h
    refine ⟨?_, rfl, rfl⟩
    simp [Format.needs, hs, Shape.count]
  | map key value =>
    obtain ⟨ks, k, vs, v, hk, hv, rfl, rfl⟩ := gives_map.1 h
    refine ⟨?_, rfl, rfl⟩
    simp [Format.needs, hs, Shape.count, shape?_of_gives key hk, shape?_of_gives value hv]
  | tuple contents =>
    obtain ⟨hne, inner, parts, -, rfl, rfl⟩ := gives_tuple.1 h
    refine ⟨?_, ?_, rfl⟩
    · simp [Format.needs, hs]
    · cases contents with
      | nil => exact absurd rfl hne
      | cons _ _ => rfl
  | array content size =>
    obtain ⟨hsize, inner, element, -, rfl, rfl⟩ := gives_array.1 h
    refine ⟨?_, rfl, ?_⟩
    · simp [Format.needs, hs]
    · simp [Format.isWritable, hsize]

section Needs

variable {r : Registry}

theorem Registry.Occurs.needs {f : Format} (h : r.Occurs f) {s : Shape} (hs : s ∈ f.needs) : r.Needs s :=
  Or.inl ⟨f, h, hs⟩

mutual

/-- All that the plan of a format registers is needed. -/
theorem needed_of_gives : ∀ (f : Format) {shapes : List Shape} {s : Shape}, f.plan.Gives shapes s → r.Occurs f →
    ∀ x ∈ shapes, r.Needs x
  | .primitive p, _, _, h, ho, x, hx => by
    obtain ⟨rfl, -⟩ := gives_primitive.1 h
    exact ho.needs hx
  | .float32, _, _, h, _, _, _ => (gives_stop h).elim
  | .float64, _, _, h, _, _, _ => (gives_stop h).elim
  | .variable _, _, _, h, _, _, _ => (gives_stop h).elim
  | .typeName name, _, _, h, _, x, hx => by
    obtain ⟨rfl, -⟩ := gives_typeName.1 h
    cases hx
  | .option content, _, _, h, ho, x, hx => by
    have hs := shape?_of_gives _ h
    obtain ⟨inner, value, hc, rfl, rfl⟩ := gives_option.1 h
    simp only [List.mem_append, List.mem_singleton] at hx
    rcases hx with (rfl | hx) | rfl
    · exact ho.needs (by simp [Format.needs])
    · exact needed_of_gives content hc ho.option x hx
    · exact ho.needs (by simp [Format.needs, hs])
  | .sequence content, _, _, h, ho, x, hx => by
    have hs := shape?_of_gives _ h
    obtain ⟨inner, element, hc, rfl, rfl⟩ := gives_sequence.1 h
    simp only [List.mem_append, List.mem_singleton] at hx
    rcases hx with (rfl | hx) | rfl
    · exact ho.needs (by simp [Format.needs, Shape.count])
    · exact needed_of_gives content hc ho.sequence x hx
    · exact ho.needs (by simp [Format.needs, hs])
  | .map key value, _, _, h, ho, x, hx => by
    have hs := shape?_of_gives _ h
    obtain ⟨ks, k, vs, v, hk, hv, rfl, rfl⟩ := gives_map.1 h
    simp only [List.mem_append, List.mem_singleton] at hx
    rcases hx with (((rfl | hx) | hx) | rfl) | rfl
    · exact ho.needs (by simp [Format.needs, Shape.count])
    · exact needed_of_gives key hk ho.mapKey x hx
    · exact needed_of_gives value hv ho.mapValue x hx
    · exact ho.needs (by simp [Format.needs, shape?_of_gives key hk, shape?_of_gives value hv])
    · exact ho.needs (by simp [Format.needs, hs])
  | .tuple contents, _, _, h, ho, x, hx => by
    have hs := shape?_of_gives _ h
    obtain ⟨-, inner, parts, hc, rfl, rfl⟩ := gives_tuple.1 h
    simp only [List.mem_append, List.mem_singleton] at hx
    rcases hx with hx | rfl
    · exact needed_of_plans contents hc (fun f hf => ho.tuple hf) x hx
    · exact ho.needs (by simp [Format.needs, hs])
  | .array content size, _, _, h, ho, x, hx => by
    have hs := shape?_of_gives _ h
    obtain ⟨-, inner, element, hc, rfl, rfl⟩ := gives_array.1 h
    simp only [List.mem_append, List.mem_singleton] at hx
    rcases hx with hx | rfl
    · exact needed_of_gives content hc ho.array x hx
    · exact ho.needs (by simp [Format.needs, hs])

theorem needed_of_plans : ∀ (fs : List Format) {shapes ss : List Shape}, (Format.plans fs).Gives shapes ss →
    (∀ f ∈ fs, r.Occurs f) → ∀ x ∈ shapes, r.Needs x
  | [], _, _, h, _, x, hx => by
    obtain ⟨rfl, -⟩ := gives_plans_nil.1 h
    cases hx
  | f :: fs, _, _, h, ho, x, hx => by
    obtain ⟨front, s, back, ss, hf, hfs, rfl, -⟩ := gives_plans_cons.1 h
    rcases List.mem_append.1 hx with hx | hx
    · exact needed_of_gives f hf (ho f List.mem_cons_self) x hx
    · exact needed_of_plans fs hfs (fun f hf => ho f (List.mem_cons_of_mem _ hf)) x hx

end

mutual

/-- The plan of a format comes to its end if the formats in it are as they should be. -/
theorem exists_gives (h : ∀ f, r.Occurs f → f.isExpressible = true ∧ f.isWritable = true) :
    ∀ f : Format, r.Occurs f → ∃ shapes s, f.plan.Gives shapes s
  | .primitive p, _ => ⟨_, _, gives_primitive.2 ⟨rfl, rfl⟩⟩
  | .float32, ho => nomatch (h _ ho).1
  | .float64, ho => nomatch (h _ ho).1
  | .variable _, ho => nomatch (h _ ho).1
  | .typeName name, _ => ⟨_, _, gives_typeName.2 ⟨rfl, rfl⟩⟩
  | .option content, ho => by
    obtain ⟨inner, value, hc⟩ := exists_gives h content ho.option
    exact ⟨_, _, gives_option.2 ⟨inner, value, hc, rfl, rfl⟩⟩
  | .sequence content, ho => by
    obtain ⟨inner, element, hc⟩ := exists_gives h content ho.sequence
    exact ⟨_, _, gives_sequence.2 ⟨inner, element, hc, rfl, rfl⟩⟩
  | .map key value, ho => by
    obtain ⟨ks, k, hk⟩ := exists_gives h key ho.mapKey
    obtain ⟨vs, v, hv⟩ := exists_gives h value ho.mapValue
    exact ⟨_, _, gives_map.2 ⟨ks, k, vs, v, hk, hv, rfl, rfl⟩⟩
  | .tuple contents, ho => by
    obtain ⟨inner, parts, hc⟩ := exists_gives_plans h contents fun f hf => ho.tuple hf
    refine ⟨_, _, gives_tuple.2 ⟨?_, inner, parts, hc, rfl, rfl⟩⟩
    rintro rfl
    exact nomatch (h _ ho).1
  | .array content size, ho => by
    obtain ⟨inner, element, hc⟩ := exists_gives h content ho.array
    have hsize : Text.isTooLong size = false := by simpa [Format.isWritable] using (h _ ho).2
    exact ⟨_, _, gives_array.2 ⟨hsize, inner, element, hc, rfl, rfl⟩⟩

theorem exists_gives_plans (h : ∀ f, r.Occurs f → f.isExpressible = true ∧ f.isWritable = true) :
    ∀ fs : List Format, (∀ f ∈ fs, r.Occurs f) → ∃ shapes ss, (Format.plans fs).Gives shapes ss
  | [], _ => ⟨_, _, gives_plans_nil.2 ⟨rfl, rfl⟩⟩
  | f :: fs, ho => by
    obtain ⟨front, s, hf⟩ := exists_gives h f (ho f List.mem_cons_self)
    obtain ⟨back, ss, hfs⟩ := exists_gives_plans h fs fun f hf => ho f (List.mem_cons_of_mem _ hf)
    exact ⟨_, _, gives_plans_cons.2 ⟨front, s, back, ss, hf, hfs, rfl, rfl⟩⟩

end

end Needs

/-! ## Structs -/

/-- The name of a part is safe. -/
theorem safeName_entry (n : Nat) : safeName ("entry" ++ toString n) = "entry" ++ toString n :=
  if_neg (Bool.eq_false_iff.1 (Solidity.isReserved_entry n))

theorem entry_injective {m n : Nat} (h : "entry" ++ toString m = "entry" ++ toString n) : m = n := by
  have hd := (String.append_right_inj (s := "entry")).1 h
  rw [Nat.toString_eq_ofList_toDigits, Nat.toString_eq_ofList_toDigits, String.ofList_inj] at hd
  rw [← Nat.ofDigitChars_ten_toDigits (n := m), hd, Nat.ofDigitChars_ten_toDigits]

/-- The names of the parts of a tuple are distinct. -/
theorem entryNames_nodup {α : Type} (parts : List α) : ((entryNames parts).map Prod.fst).Nodup := by
  have hnames : (entryNames parts).map Prod.fst = (List.range parts.length).map fun n => "entry" ++ toString n := by
    unfold entryNames
    rw [List.map_map, List.range_eq_range', ← List.zipIdx_map_snd 0 parts, List.map_map]
    rfl
  rw [hnames]
  exact List.nodup_range.map fun _ _ => entry_injective

/-- The names of the parts of a tuple stay as they are and distinct. -/
theorem distinctFields_entryNames (contents : List Format) : DistinctFields (entryNames contents) := by
  have hsafe : ∀ field ∈ entryNames contents, safeName field.1 = field.1 := by
    intro field hf
    obtain ⟨p, -, rfl⟩ := List.mem_map.1 hf
    exact safeName_entry p.2
  unfold DistinctFields
  rw [List.map_congr_left hsafe]
  exact entryNames_nodup contents

/-- The names of a struct's fields are the safe ones. -/
theorem fieldShapes_map_fst {fields : List (String × Format)} {ss : List Shape} (h : ss.length = fields.length) :
    (fieldShapes fields ss).map Prod.fst = fields.map fun field => safeName field.1 := by
  unfold fieldShapes
  rw [List.map_fst_zip]
  simp [h]

/-- The plan of a struct comes to its end exactly if those of its fields do and the names are distinct. -/
theorem structPlan_gives_iff {name : String} {fields : List (String × Format)} {shapes : List Shape} {s : Shape} :
    (structPlan name fields).Gives shapes s ↔ DistinctFields fields ∧ ∃ inner ss,
      (Format.plans (fields.map Prod.snd)).Gives inner ss ∧ shapes = inner ++ [s] ∧
      s = .struct name (fieldShapes fields ss) := by
  rw [gives_structPlan]
  constructor
  · rintro ⟨inner, ss, hfs, hn, rfl, rfl⟩
    have hl := (gives_plans_zip hfs).1
    rw [fieldShapes_map_fst (by simpa using hl)] at hn
    exact ⟨hn, inner, ss, hfs, rfl, rfl⟩
  · rintro ⟨hn, inner, ss, hfs, rfl, rfl⟩
    have hl := (gives_plans_zip hfs).1
    refine ⟨inner, ss, hfs, ?_, rfl, rfl⟩
    rwa [fieldShapes_map_fst (by simpa using hl)]

theorem structShape?_of_gives {name : String} {fields : List (String × Format)} {shapes : List Shape} {s : Shape}
    (h : (structPlan name fields).Gives shapes s) :
    structShape? name fields = some s ∧ s ∈ shapes ∧ DistinctFields fields := by
  obtain ⟨hn, inner, ss, hfs, rfl, rfl⟩ := structPlan_gives_iff.1 h
  refine ⟨?_, by simp, hn⟩
  simp [structShape?, shapes?_of_gives _ hfs]

section Containers

variable {r : Registry}

theorem needed_of_structPlan {name : String} {fields : List (String × Format)} {shapes : List Shape} {s : Shape}
    (h : (structPlan name fields).Gives shapes s) (ho : ∀ f ∈ fields.map Prod.snd, r.Occurs f) (hs : r.Needs s) :
    ∀ x ∈ shapes, r.Needs x := by
  obtain ⟨-, inner, ss, hfs, rfl, -⟩ := structPlan_gives_iff.1 h
  intro x hx
  rcases List.mem_append.1 hx with hx | hx
  · exact needed_of_plans _ hfs ho x hx
  · rwa [List.mem_singleton.1 hx]

theorem exists_gives_structPlan (h : ∀ f, r.Occurs f → f.isExpressible = true ∧ f.isWritable = true) (name : String)
    {fields : List (String × Format)} (ho : ∀ f ∈ fields.map Prod.snd, r.Occurs f) (hd : DistinctFields fields) :
    ∃ shapes s, (structPlan name fields).Gives shapes s := by
  obtain ⟨inner, ss, hfs⟩ := exists_gives_plans h _ ho
  exact ⟨_, _, structPlan_gives_iff.2 ⟨hd, inner, ss, hfs, rfl, rfl⟩⟩

/-! ## Variants -/

theorem gives_unless {α : Type} {b : Bool} {e : Unsupported} {p : Plan α} {shapes : List Shape} {a : α} :
    (if b then stop e else p : Plan α).Gives shapes a ↔ b = false ∧ p.Gives shapes a := by
  cases b with
  | false => simp
  | true => simpa using fun h => gives_stop h

theorem gives_some {p : Plan Shape} {shapes : List Shape} {payload : Option Shape} :
    (p >>= fun s => pure (some s)).Gives shapes payload ↔ ∃ s, p.Gives shapes s ∧ payload = some s := by
  simp only [gives_bind, gives_pure]
  constructor
  · rintro ⟨s, front, _, h, ⟨rfl, rfl⟩, rfl⟩
    exact ⟨s, by rwa [List.append_nil], rfl⟩
  · rintro ⟨s, h, rfl⟩
    exact ⟨s, _, _, h, ⟨rfl, rfl⟩, by rw [List.append_nil]⟩

/-- What the plan of a variant says. -/
structure VariantFormat.Given (enumName variant : String) (vf : VariantFormat) (shapes : List Shape)
    (payload : Option Shape) : Prop where
  shape : vf.shape? enumName variant = payload
  carries : payload.isSome = !vf.isUnit
  expressible : vf.isExpressible = true
  distinct : vf.Distinct
  needs : vf.needs enumName variant ⊆ shapes

theorem VariantFormat.given {enumName variant : String} {vf : VariantFormat} {shapes : List Shape}
    {payload : Option Shape} (h : (vf.plan enumName variant).Gives shapes payload) :
    vf.Given enumName variant shapes payload := by
  cases vf with
  | unit =>
    obtain ⟨-, rfl⟩ := gives_pure.1 h
    exact ⟨rfl, rfl, rfl, trivial, List.nil_subset _⟩
  | newType content =>
    obtain ⟨s, hs, rfl⟩ := gives_some.1 h
    exact ⟨shape?_of_gives content hs, rfl, rfl, trivial, List.nil_subset _⟩
  | tuple contents =>
    obtain ⟨hne, h⟩ := gives_unless.1 h
    obtain ⟨s, hs, rfl⟩ := gives_some.1 h
    obtain ⟨hshape, hmem, -⟩ := structShape?_of_gives hs
    refine ⟨hshape, rfl, ?_, trivial, ?_⟩
    · cases contents with
      | nil => cases hne
      | cons _ _ => rfl
    · simp [VariantFormat.needs, VariantFormat.shape?, hshape, hmem]
  | struct fields =>
    obtain ⟨hne, h⟩ := gives_unless.1 h
    obtain ⟨s, hs, rfl⟩ := gives_some.1 h
    obtain ⟨hshape, hmem, hd⟩ := structShape?_of_gives hs
    refine ⟨hshape, rfl, ?_, hd, ?_⟩
    · cases fields with
      | nil => cases hne
      | cons _ _ => rfl
    · simp [VariantFormat.needs, VariantFormat.shape?, hshape, hmem]
  | «variable» _ => exact (gives_stop h).elim

theorem needed_of_variant {enumName variant : String} {vf : VariantFormat} {shapes : List Shape}
    {payload : Option Shape} (h : (vf.plan enumName variant).Gives shapes payload)
    (ho : ∀ f ∈ vf.contents, r.Occurs f) (hn : ∀ x ∈ vf.needs enumName variant, r.Needs x) : ∀ x ∈ shapes, r.Needs x := by
  cases vf with
  | unit =>
    obtain ⟨rfl, -⟩ := gives_pure.1 h
    exact fun _ hx => absurd hx List.not_mem_nil
  | newType content =>
    obtain ⟨s, hs, -⟩ := gives_some.1 h
    exact needed_of_gives content hs (ho content List.mem_cons_self)
  | tuple contents =>
    obtain ⟨-, h⟩ := gives_unless.1 h
    obtain ⟨s, hs, -⟩ := gives_some.1 h
    refine needed_of_structPlan hs (by rwa [entryNames_map_snd]) (hn s ?_)
    simp [VariantFormat.needs, VariantFormat.shape?, (structShape?_of_gives hs).1]
  | struct fields =>
    obtain ⟨-, h⟩ := gives_unless.1 h
    obtain ⟨s, hs, -⟩ := gives_some.1 h
    refine needed_of_structPlan hs ho (hn s ?_)
    simp [VariantFormat.needs, VariantFormat.shape?, (structShape?_of_gives hs).1]
  | «variable» _ => exact (gives_stop h).elim

theorem exists_gives_variant (h : ∀ f, r.Occurs f → f.isExpressible = true ∧ f.isWritable = true) (enumName variant : String)
    {vf : VariantFormat} (ho : ∀ f ∈ vf.contents, r.Occurs f) (he : vf.isExpressible = true) (hd : vf.Distinct) :
    ∃ shapes payload, (vf.plan enumName variant).Gives shapes payload := by
  cases vf with
  | unit => exact ⟨_, _, gives_pure.2 ⟨rfl, rfl⟩⟩
  | newType content =>
    obtain ⟨inner, s, hs⟩ := exists_gives h content (ho content List.mem_cons_self)
    exact ⟨_, _, gives_some.2 ⟨s, hs, rfl⟩⟩
  | tuple contents =>
    obtain ⟨inner, s, hs⟩ := exists_gives_structPlan h (enumName ++ "_" ++ variant) (by rwa [entryNames_map_snd])
      (distinctFields_entryNames contents)
    refine ⟨_, _, gives_unless.2 ⟨?_, gives_some.2 ⟨s, hs, rfl⟩⟩⟩
    cases contents with
    | nil => cases he
    | cons _ _ => rfl
  | struct fields =>
    obtain ⟨inner, s, hs⟩ := exists_gives_structPlan h (enumName ++ "_" ++ variant) ho hd
    refine ⟨_, _, gives_unless.2 ⟨?_, gives_some.2 ⟨s, hs, rfl⟩⟩⟩
    cases fields with
    | nil => cases he
    | cons _ _ => rfl
  | «variable» _ => cases he

/-- The variants of a tagged enumeration, each of which has been planned. -/
theorem variants_given {enumName : String} : ∀ {vs : List IndexedVariant} {shapes : List Shape}
    {variants : List (String × Option String × Option Shape)}, (variantsPlan enumName vs).Gives shapes variants →
    variants = vs.map (·.entry enumName) ∧
      ∀ v ∈ vs, ∃ inner, (v.format.plan enumName v.name).Gives inner (v.format.shape? enumName v.name) ∧ inner ⊆ shapes
  | [], _, _, h => by
    obtain ⟨-, rfl⟩ := gives_pure.1 h
    exact ⟨rfl, fun _ hv => nomatch hv⟩
  | v :: vs, _, _, h => by
    obtain ⟨front, payload, back, variants, hv, hvs, rfl, rfl⟩ := gives_variantsPlan_cons.1 h
    obtain ⟨rfl, ih⟩ := variants_given hvs
    obtain rfl := (VariantFormat.given hv).shape
    refine ⟨rfl, fun w hw => ?_⟩
    rcases List.mem_cons.1 hw with rfl | hw
    · exact ⟨front, hv, List.subset_append_left ..⟩
    · obtain ⟨inner, hg, hsub⟩ := ih w hw
      exact ⟨inner, hg, List.Subset.trans hsub (List.subset_append_right ..)⟩

theorem needed_of_variants {enumName : String} : ∀ {vs : List IndexedVariant} {shapes : List Shape}
    {variants : List (String × Option String × Option Shape)}, (variantsPlan enumName vs).Gives shapes variants →
    (∀ v ∈ vs, ∀ f ∈ v.format.contents, r.Occurs f) → (∀ v ∈ vs, ∀ x ∈ v.format.needs enumName v.name, r.Needs x) →
    ∀ x ∈ shapes, r.Needs x
  | [], _, _, h, _, _, x, hx => by
    obtain ⟨rfl, -⟩ := gives_pure.1 h
    cases hx
  | v :: vs, _, _, h, ho, hn, x, hx => by
    obtain ⟨front, payload, back, variants, hv, hvs, rfl, -⟩ := gives_variantsPlan_cons.1 h
    rcases List.mem_append.1 hx with hx | hx
    · exact needed_of_variant hv (ho v List.mem_cons_self) (hn v List.mem_cons_self) x hx
    · exact needed_of_variants hvs (fun w hw => ho w (List.mem_cons_of_mem _ hw))
        (fun w hw => hn w (List.mem_cons_of_mem _ hw)) x hx

theorem exists_gives_variants (h : ∀ f, r.Occurs f → f.isExpressible = true ∧ f.isWritable = true) (enumName : String) :
    ∀ {vs : List IndexedVariant}, (∀ v ∈ vs, ∀ f ∈ v.format.contents, r.Occurs f) →
    (∀ v ∈ vs, v.format.isExpressible = true) → (∀ v ∈ vs, v.format.Distinct) →
    ∃ shapes variants, (variantsPlan enumName vs).Gives shapes variants
  | [], _, _, _ => ⟨_, _, gives_pure.2 ⟨rfl, rfl⟩⟩
  | v :: vs, ho, he, hd => by
    obtain ⟨front, payload, hv⟩ := exists_gives_variant h enumName v.name (ho v List.mem_cons_self)
      (he v List.mem_cons_self) (hd v List.mem_cons_self)
    obtain ⟨back, variants, hvs⟩ := exists_gives_variants h enumName (fun w hw => ho w (List.mem_cons_of_mem _ hw))
      (fun w hw => he w (List.mem_cons_of_mem _ hw)) fun w hw => hd w (List.mem_cons_of_mem _ hw)
    exact ⟨_, _, gives_variantsPlan_cons.2 ⟨front, payload, back, variants, hv, hvs, rfl, rfl⟩⟩

/-! ## Enumerations -/

/-- The fields of the struct for an enumeration whose variants have shapes if they carry something. -/
theorem taggedFields_map_entry {enumName : String} : ∀ {vs : List IndexedVariant},
    (∀ v ∈ vs, (v.format.shape? enumName v.name).isSome = !v.format.isUnit) →
    taggedFields (vs.map (·.entry enumName)) = "choice" :: payloadNames vs
  | [], _ => rfl
  | v :: vs, h => by
    have ih := taggedFields_map_entry fun w hw => h w (List.mem_cons_of_mem _ hw)
    have hv := h v List.mem_cons_self
    simp only [taggedFields, Shape.payloadFields, payloadNames, List.map_cons, List.cons.injEq, true_and,
      IndexedVariant.entry, List.filterMap_cons, List.filter_cons] at ih ⊢
    cases hs : v.format.shape? enumName v.name with
    | none =>
      have hu : v.format.isUnit = true := by simpa [hs] using hv
      simpa [hu] using ih
    | some s =>
      have hu : v.format.isUnit = false := by simpa [hs] using hv
      simpa [hu] using ih

theorem VariantFormat.eq_unit {vf : VariantFormat} (h : vf.isUnit = true) : vf = .unit := by
  cases vf with
  | unit => rfl
  | _ => cases h

/-- Of variants that have been planned, exactly those that carry something have a shape of their own. -/
theorem carries_of_plans {name : String} {vs : List IndexedVariant} {shapes : List Shape}
    (h : ∀ v ∈ vs, ∃ inner, (v.format.plan name v.name).Gives inner (v.format.shape? name v.name) ∧ inner ⊆ shapes) :
    ∀ v ∈ vs, (v.format.shape? name v.name).isSome = !v.format.isUnit := by
  intro v hv
  obtain ⟨inner, hg, -⟩ := h v hv
  exact (VariantFormat.given hg).carries

/-- The shape of an enumeration, each of whose variants has been planned. -/
theorem enumShape?_of_gives {name : String} {vs : List IndexedVariant} {shapes : List Shape} {s : Shape}
    (h : (enumPlan name vs).Gives shapes s) : (Container.enum vs).shape? name = some s ∧
      ∀ v ∈ vs, ∃ inner, (v.format.plan name v.name).Gives inner (v.format.shape? name v.name) ∧ inner ⊆ shapes := by
  rcases gives_enumPlan h with ⟨hu, -, rfl⟩ | ⟨hu, inner, variants, hvs, -, rfl, rfl⟩
  · refine ⟨by simp [Container.shape?, hu], fun v hv => ⟨[], ?_, List.nil_subset _⟩⟩
    rw [VariantFormat.eq_unit (List.all_eq_true.1 hu v hv)]
    exact gives_pure.2 ⟨rfl, rfl⟩
  · obtain ⟨rfl, hplans⟩ := variants_given hvs
    refine ⟨by simp [Container.shape?, hu], fun v hv => ?_⟩
    obtain ⟨inner', hg, hsub⟩ := hplans v hv
    rw [List.append_assoc]
    exact ⟨inner', hg, List.Subset.trans hsub (List.subset_append_left ..)⟩

theorem enum_of_gives {name : String} {vs : List IndexedVariant} {shapes : List Shape} {s : Shape}
    (h : (enumPlan name vs).Gives shapes s) :
    (Container.enum vs).needs name ⊆ shapes ∧ (Container.enum vs).isExpressible = true ∧ (Container.enum vs).Distinct := by
  have hne : vs ≠ [] := by
    rintro rfl
    exact gives_stop h
  have expressible : (Container.enum vs).isExpressible = vs.all (·.format.isExpressible) := by
    cases vs with
    | nil => exact absurd rfl hne
    | cons _ _ => rfl
  have hcarries := carries_of_plans (enumShape?_of_gives h).2
  rw [expressible, List.all_eq_true]
  rcases gives_enumPlan h with ⟨hu, rfl, rfl⟩ | ⟨hu, inner, variants, hvs, hn, rfl, rfl⟩
  · have unit : ∀ v ∈ vs, v.format = .unit := fun v hv => VariantFormat.eq_unit (List.all_eq_true.1 hu v hv)
    refine ⟨?_, fun v hv => by rw [unit v hv]; rfl, fun v hv => by rw [unit v hv]; trivial, fun h => ?_⟩
    · simp [Container.needs, Container.shape?, hu]
    · rw [hu] at h
      cases h
  · obtain ⟨rfl, hplans⟩ := variants_given hvs
    rw [taggedFields_map_entry hcarries] at hn
    refine ⟨?_, fun v hv => ?_, fun v hv => ?_, fun _ => hn⟩
    · have payloads : (vs.flatMap fun v => v.format.needs name v.name) ⊆ inner := fun x hx => by
        obtain ⟨v, hv, hx⟩ := List.mem_flatMap.1 hx
        obtain ⟨inner', hg, hsub⟩ := hplans v hv
        exact hsub ((VariantFormat.given hg).needs hx)
      intro x hx
      simp only [Container.needs, Container.shape?, hu, Bool.false_eq_true, if_false, Option.toList_some, List.cons_append,
        List.mem_cons, List.mem_append, List.not_mem_nil, or_false] at hx
      simp only [List.mem_append, List.mem_singleton]
      rcases hx with rfl | hx | rfl
      · exact Or.inl (Or.inr rfl)
      · exact Or.inl (Or.inl (payloads hx))
      · exact Or.inr rfl
    · obtain ⟨_, hg, -⟩ := hplans v hv
      exact (VariantFormat.given hg).expressible
    · obtain ⟨_, hg, -⟩ := hplans v hv
      exact (VariantFormat.given hg).distinct

theorem needed_of_enum {name : String} {vs : List IndexedVariant} {shapes : List Shape} {s : Shape}
    (h : (enumPlan name vs).Gives shapes s) (ho : ∀ v ∈ vs, ∀ f ∈ v.format.contents, r.Occurs f)
    (hn : ∀ x ∈ (Container.enum vs).needs name, r.Needs x) : ∀ x ∈ shapes, r.Needs x := by
  rcases gives_enumPlan h with ⟨hu, rfl, -⟩ | ⟨hu, inner, variants, hvs, -, rfl, -⟩
  · simpa [Container.needs, Container.shape?, hu] using hn
  · obtain ⟨rfl, -⟩ := variants_given hvs
    simp only [Container.needs, Container.shape?, hu, Bool.false_eq_true, if_false, Option.toList_some, List.cons_append,
      List.mem_cons, List.mem_append, List.not_mem_nil, or_false, List.mem_flatMap] at hn
    intro x hx
    simp only [List.mem_append, List.mem_singleton] at hx
    rcases hx with (hx | rfl) | rfl
    · exact needed_of_variants hvs ho (fun v hv y hy => hn y (Or.inr (Or.inl ⟨v, hv, hy⟩))) x hx
    · exact hn _ (Or.inl rfl)
    · exact hn _ (Or.inr (Or.inr rfl))

theorem exists_gives_enum (h : ∀ f, r.Occurs f → f.isExpressible = true ∧ f.isWritable = true) (name : String)
    {vs : List IndexedVariant} (ho : ∀ v ∈ vs, ∀ f ∈ v.format.contents, r.Occurs f)
    (he : (Container.enum vs).isExpressible = true) (hd : (Container.enum vs).Distinct) :
    ∃ shapes s, (enumPlan name vs).Gives shapes s := by
  have hne : vs.isEmpty = false := by
    cases vs with
    | nil => cases he
    | cons _ _ => rfl
  have expressible : ∀ v ∈ vs, v.format.isExpressible = true := by
    cases vs with
    | nil => cases hne
    | cons _ _ => exact List.all_eq_true.1 he
  unfold enumPlan
  simp only [gives_unless, hne, true_and]
  cases hu : vs.all (·.format.isUnit) with
  | true => exact ⟨_, _, gives_register.2 ⟨rfl, rfl⟩⟩
  | false =>
    obtain ⟨inner, variants, hvs⟩ := exists_gives_variants h name ho expressible hd.1
    obtain ⟨rfl, hplans⟩ := variants_given hvs
    have hn : (taggedFields (vs.map (·.entry name))).Nodup := by
      rw [taggedFields_map_entry (carries_of_plans hplans)]
      exact hd.2 hu
    refine ⟨inner ++ ([.count] ++ [.taggedEnum name (vs.map (·.entry name))]), .taggedEnum name (vs.map (·.entry name)),
      gives_bind.2 ⟨_, inner, _, hvs, ?_, rfl⟩⟩
    rw [if_pos hn]
    exact gives_bind.2 ⟨_, _, _, gives_register.2 ⟨rfl, rfl⟩, gives_register.2 ⟨rfl, rfl⟩, rfl⟩

/-! ## Containers -/

theorem body_of_gives {name : String} {c : Container} {shapes : List Shape} {s : Shape}
    (h : (c.bodyPlan name).Gives shapes s) : c.needs name ⊆ shapes ∧ c.isExpressible = true ∧ c.Distinct := by
  cases c with
  | unitStruct => exact (gives_stop h).elim
  | newTypeStruct content =>
    obtain ⟨hshape, hmem, -⟩ := structShape?_of_gives h
    refine ⟨?_, rfl, trivial⟩
    simp [Container.needs, Container.shape?, hshape, hmem]
  | tupleStruct contents =>
    obtain ⟨hne, h⟩ := gives_unless.1 h
    obtain ⟨hshape, hmem, -⟩ := structShape?_of_gives h
    refine ⟨?_, ?_, trivial⟩
    · simp [Container.needs, Container.shape?, hshape, hmem]
    · cases contents with
      | nil => cases hne
      | cons _ _ => rfl
  | struct fields =>
    obtain ⟨hne, h⟩ := gives_unless.1 h
    obtain ⟨hshape, hmem, hd⟩ := structShape?_of_gives h
    refine ⟨?_, ?_, hd⟩
    · simp [Container.needs, Container.shape?, hshape, hmem]
    · cases fields with
      | nil => cases hne
      | cons _ _ => rfl
  | enum vs => exact enum_of_gives h

theorem needed_of_body {name : String} {c : Container} (hc : (name, c) ∈ r) {shapes : List Shape} {s : Shape}
    (h : (c.bodyPlan name).Gives shapes s) : ∀ x ∈ shapes, r.Needs x := by
  have ho : ∀ f ∈ c.contents, r.Occurs f := fun f hf => .content hc hf
  have hn : ∀ x ∈ c.needs name, r.Needs x := fun x hx => Or.inr ⟨name, c, hc, hx⟩
  cases c with
  | unitStruct => exact (gives_stop h).elim
  | newTypeStruct content =>
    refine needed_of_structPlan h ho (hn s ?_)
    simp [Container.needs, Container.shape?, (structShape?_of_gives h).1]
  | tupleStruct contents =>
    obtain ⟨-, h⟩ := gives_unless.1 h
    refine needed_of_structPlan h (by rwa [entryNames_map_snd]) (hn s ?_)
    simp [Container.needs, Container.shape?, (structShape?_of_gives h).1]
  | struct fields =>
    obtain ⟨-, h⟩ := gives_unless.1 h
    refine needed_of_structPlan h ho (hn s ?_)
    simp [Container.needs, Container.shape?, (structShape?_of_gives h).1]
  | enum vs => exact needed_of_enum h (fun v hv f hf => ho f (List.mem_flatMap.2 ⟨v, hv, hf⟩)) hn

theorem exists_gives_body (h : ∀ f, r.Occurs f → f.isExpressible = true ∧ f.isWritable = true) {name : String}
    {c : Container} (hc : (name, c) ∈ r) (he : c.isExpressible = true) (hd : c.Distinct) :
    ∃ shapes s, (c.bodyPlan name).Gives shapes s := by
  have ho : ∀ f ∈ c.contents, r.Occurs f := fun f hf => .content hc hf
  cases c with
  | unitStruct => cases he
  | newTypeStruct content => exact exists_gives_structPlan h name ho (List.nodup_singleton _)
  | tupleStruct contents =>
    obtain ⟨shapes, s, hs⟩ := exists_gives_structPlan h name (by rwa [entryNames_map_snd])
      (distinctFields_entryNames contents)
    refine ⟨shapes, s, gives_unless.2 ⟨?_, hs⟩⟩
    cases contents with
    | nil => cases he
    | cons _ _ => rfl
  | struct fields =>
    obtain ⟨shapes, s, hs⟩ := exists_gives_structPlan h name ho hd
    refine ⟨shapes, s, gives_unless.2 ⟨?_, hs⟩⟩
    cases fields with
    | nil => cases he
    | cons _ _ => rfl
  | enum vs => exact exists_gives_enum h name (fun v hv f hf => ho f (List.mem_flatMap.2 ⟨v, hv, hf⟩)) he hd

end Containers

/-- The shape under the name of an enumeration, each of whose variants has been planned. -/
theorem Registry.Lowers.get?_enum {r : Registry} {t : Table} (hl : r.Lowers t) {name : String} {vs : List IndexedVariant}
    (hc : (name, .enum vs) ∈ r) : t.get? name = (Container.enum vs).shape? name ∧
      ∀ v ∈ vs, ∃ inner, (v.format.plan name v.name).Gives inner (v.format.shape? name v.name) ∧ inner ⊆ t.shapes := by
  obtain ⟨shapes, s, hgives, hsub, hs, -⟩ := hl.get?_name hc
  obtain ⟨hshape, hplans⟩ := enumShape?_of_gives hgives
  refine ⟨hs.trans hshape.symm, fun v hv => ?_⟩
  obtain ⟨inner, hg, hinner⟩ := hplans v hv
  exact ⟨inner, hg, List.Subset.trans hinner hsub⟩

end SolidityWire
