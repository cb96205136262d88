/-
What a type name can refer to. References are looked up among all shapes of the table, which holds, besides the
shapes under the names of containers, those that lowering makes up: primitive types, options, sequences, tuples,
pairs of keys and values, arrays, and structs of variants. A type name is accepted exactly if it is the name of a
container or the key of a shape that some format or enumeration of the registry has made up.
-/
import SolidityWire.Proofs.Shape.Acceptance
import SolidityWire.Proofs.Shape.Order

namespace SolidityWire

open Plan
open Solidity (safeName)

/-! ## Shapes that are made up -/

/-- The shapes that a container needs besides its own: the choice and the structs of the variants. -/
def Container.besides (name : String) : Container → List Shape
  | .enum variants =>
    if variants.all (·.format.isUnit) then []
    else .count :: variants.flatMap fun v => v.format.needs name v.name
  | _ => []

/-- A shape that is needed and is not that of a container. -/
def Registry.MakesUp (r : Registry) (s : Shape) : Prop :=
  (∃ f, r.Occurs f ∧ s ∈ f.needs) ∨ ∃ name c, (name, c) ∈ r ∧ s ∈ c.besides name

/-- Each type name that occurs is that of a container or the key of a shape that is made up. -/
def Registry.Resolves (r : Registry) : Prop :=
  ∀ name, r.Occurs (.typeName name) → (∃ c, (name, c) ∈ r) ∨ ∃ s, r.MakesUp s ∧ s.key = name

theorem Container.mem_needs {name : String} {c : Container} {s : Shape} :
    s ∈ c.needs name ↔ s ∈ c.besides name ∨ c.shape? name = some s := by
  cases c with
  | enum variants =>
    cases hu : variants.all (·.format.isUnit) with
    | true => simp [needs, besides, hu]
    | false =>
      simp only [needs, besides, hu, Bool.false_eq_true, if_false, List.cons_append, List.mem_cons, List.mem_append,
        Option.mem_toList, or_assoc]
  | _ => simp [needs, besides]

theorem structShape?_key {name : String} {fields : List (String × Format)} {s : Shape}
    (h : structShape? name fields = some s) : s.key = name := by
  obtain ⟨ss, -, rfl⟩ := Option.map_eq_some_iff.1 h
  rfl

/-- The shape of a container is under its name. -/
theorem Container.shape?_key {name : String} {c : Container} {s : Shape} (h : c.shape? name = some s) :
    s.key = name := by
  cases c with
  | unitStruct => exact nomatch h
  | enum variants =>
    cases hu : variants.all (·.format.isUnit) with
    | true =>
      simp only [shape?, hu, if_true, Option.some.injEq] at h
      rw [← h]
      rfl
    | false =>
      simp only [shape?, hu, Bool.false_eq_true, if_false, Option.some.injEq] at h
      rw [← h]
      rfl
  | _ => exact structShape?_key h

namespace Registry

variable {r : Registry}

/-- What is needed is made up or stands under the name of its container. -/
theorem needs_iff {s : Shape} : r.Needs s ↔ r.MakesUp s ∨ ∃ name c, (name, c) ∈ r ∧ c.shape? name = some s := by
  unfold Needs MakesUp
  simp only [Container.mem_needs, and_or_left, exists_or, or_assoc]

/-! ## Shapes with a parent -/

/-- All formats that occur have shapes. -/
def Shaped (r : Registry) : Prop :=
  ∀ f, r.Occurs f → ∃ s, f.shape? = some s

end Registry

/-- Formats that have shapes have them together, and each of them among these. -/
theorem exists_shapes? : ∀ {fs : List Format}, (∀ f ∈ fs, ∃ s, f.shape? = some s) →
    ∃ ss, Format.shapes? fs = some ss ∧ ss.length = fs.length ∧ ∀ f ∈ fs, ∀ s, f.shape? = some s → s ∈ ss
  | [], _ => ⟨[], rfl, rfl, fun _ hf => nomatch hf⟩
  | f :: fs, h => by
    obtain ⟨s, hs⟩ := h f List.mem_cons_self
    obtain ⟨ss, hss, hl, hmem⟩ := exists_shapes? fun g hg => h g (List.mem_cons_of_mem _ hg)
    refine ⟨s :: ss, by simp [Format.shapes?, hs, hss], by simp [hl], fun g hg s' hs' => ?_⟩
    rcases List.mem_cons.1 hg with rfl | hg
    · cases hs.symm.trans hs'
      exact List.mem_cons_self
    · exact List.mem_cons_of_mem _ (hmem g hg s' hs')

theorem fieldShapes_children {name : String} {fields : List (String × Format)} {ss : List Shape}
    (h : ss.length = fields.length) : (Shape.struct name (fieldShapes fields ss)).children = ss := by
  unfold fieldShapes
  change ((fields.map fun field => safeName field.1).zip ss).map Prod.snd = ss
  rw [List.map_snd_zip]
  simp [h]

/-- The struct of formats that have shapes is built from these. -/
theorem exists_structShape? (name : String) {fields : List (String × Format)}
    (h : ∀ f ∈ fields.map Prod.snd, ∃ s, f.shape? = some s) : ∃ parent, structShape? name fields = some parent ∧
      ∀ f ∈ fields.map Prod.snd, ∀ s, f.shape? = some s → s ∈ parent.children := by
  obtain ⟨ss, hss, hl, hmem⟩ := exists_shapes? h
  refine ⟨.struct name (fieldShapes fields ss), by simp [structShape?, hss], ?_⟩
  rw [fieldShapes_children (by simpa using hl)]
  exact hmem

/-- What a variant carries is a format, whose shape is the payload, or formats of which a struct is made up. -/
theorem exists_parent_of_variant (enumName : String) {v : IndexedVariant}
    (h : ∀ f ∈ v.format.contents, ∃ s, f.shape? = some s) {f : Format} (hf : f ∈ v.format.contents) {s : Shape}
    (hs : f.shape? = some s) : v.format.shape? enumName v.name = some s ∨
      ∃ parent ∈ v.format.needs enumName v.name, s ∈ parent.children := by
  cases hv : v.format with
  | unit | «variable» _ =>
    rw [hv] at hf
    cases hf
  | newType content =>
    rw [hv] at hf
    cases List.mem_singleton.1 hf
    exact Or.inl hs
  | tuple contents =>
    rw [hv] at h hf
    have hfields : (entryNames contents).map Prod.snd = (VariantFormat.tuple contents).contents :=
      entryNames_map_snd contents
    rw [← hfields] at h hf
    obtain ⟨parent, hparent, hchild⟩ := exists_structShape? (enumName ++ "_" ++ v.name) h
    refine Or.inr ⟨parent, ?_, hchild f hf s hs⟩
    simp [VariantFormat.needs, VariantFormat.shape?, hparent]
  | struct fields =>
    rw [hv] at h hf
    obtain ⟨parent, hparent, hchild⟩ := exists_structShape? (enumName ++ "_" ++ v.name) h
    refine Or.inr ⟨parent, ?_, hchild f hf s hs⟩
    simp [VariantFormat.needs, VariantFormat.shape?, hparent]

/-- A shape that a variant has is a child of the tagged enumeration. -/
theorem mem_children_of_variant {name : String} {vs : List IndexedVariant} {v : IndexedVariant} (hv : v ∈ vs)
    {s : Shape} (hs : v.format.shape? name v.name = some s) :
    s ∈ (Shape.taggedEnum name (vs.map (·.entry name))).children := by
  refine List.mem_map.2 ⟨(some (payloadField v.name), s), ?_, rfl⟩
  refine List.mem_filterMap.2 ⟨v.entry name, List.mem_map_of_mem hv, ?_⟩
  simp [IndexedVariant.entry, hs]

/-- Whatever a container lists is a child of its shape or of the struct of a variant. -/
theorem exists_parent_of_container {name : String} {c : Container} (h : ∀ f ∈ c.contents, ∃ s, f.shape? = some s)
    {f : Format} (hf : f ∈ c.contents) {s : Shape} (hs : f.shape? = some s) :
    ∃ parent ∈ c.needs name, s ∈ parent.children := by
  have ofStruct : ∀ fields : List (String × Format), fields.map Prod.snd = c.contents →
      c.needs name = (structShape? name fields).toList → ∃ parent ∈ c.needs name, s ∈ parent.children := by
    intro fields hfields hneeds
    rw [← hfields] at h hf
    obtain ⟨parent, hparent, hchild⟩ := exists_structShape? name h
    refine ⟨parent, ?_, hchild f hf s hs⟩
    rw [hneeds, hparent]
    exact List.mem_singleton_self _
  cases c with
  | unitStruct => cases hf
  | newTypeStruct content => exact ofStruct [("value", content)] rfl rfl
  | tupleStruct contents => exact ofStruct (entryNames contents) (entryNames_map_snd contents) rfl
  | struct fields => exact ofStruct fields rfl rfl
  | enum vs =>
    obtain ⟨v, hv, hf⟩ := List.mem_flatMap.1 hf
    -- a variant that lists something is no unit
    have hu : vs.all (·.format.isUnit) = false := by
      rw [List.all_eq_false]
      refine ⟨v, hv, fun hunit => ?_⟩
      rw [VariantFormat.eq_unit hunit] at hf
      cases hf
    have hlists : ∀ g ∈ v.format.contents, ∃ s, g.shape? = some s := fun g hg =>
      h g (List.mem_flatMap.2 ⟨v, hv, hg⟩)
    rcases exists_parent_of_variant name hlists hf hs with hpayload | ⟨parent, hparent, hchild⟩
    · refine ⟨.taggedEnum name (vs.map (·.entry name)), ?_, mem_children_of_variant hv hpayload⟩
      simp [Container.needs, Container.shape?, hu]
    · refine ⟨parent, Container.mem_needs.2 (Or.inl ?_), hchild⟩
      simp only [Container.besides, hu, Bool.false_eq_true, if_false]
      exact List.mem_cons_of_mem _ (List.mem_flatMap.2 ⟨v, hv, hparent⟩)

/-- What a shape depends on are the primitive types that its functions use on their own, and its children. -/
theorem Shape.mem_dependencies {s : Shape} (hs : s.isReference = false) {key : String} (h : key ∈ s.dependencies) :
    (∃ p ∈ s.helpers, (primitive p).key = key) ∨ ∃ child ∈ s.children, child.key = key := by
  cases s with
  | reference _ => cases hs
  | option value =>
    rcases List.mem_cons.1 h with rfl | h
    · exact Or.inl ⟨.bool, List.mem_singleton_self _, rfl⟩
    · exact Or.inr ⟨value, List.mem_singleton_self _, (List.mem_singleton.1 h).symm⟩
  | taggedEnum name variants =>
    rcases List.mem_cons.1 h with rfl | h
    · exact Or.inl ⟨.integer false .w64, List.mem_singleton_self _, rfl⟩
    · obtain ⟨payload, hp, rfl⟩ := List.mem_map.1 h
      exact Or.inr ⟨payload.2, List.mem_map_of_mem hp, rfl⟩
  | _ => exact Or.inr (List.mem_map.1 h)

namespace Registry

variable {r : Registry}

/-- The shape of a format that occurs is a child of a needed shape. -/
theorem exists_parent (h : r.Shaped) {f : Format} (ho : r.Occurs f) {s : Shape} (hs : f.shape? = some s) :
    ∃ parent, r.Needs parent ∧ s ∈ parent.children := by
  cases ho with
  | content hc hf =>
    obtain ⟨parent, hparent, hchild⟩ := exists_parent_of_container (fun g hg => h g (.content hc hg)) hf hs
    exact ⟨parent, Or.inr ⟨_, _, hc, hparent⟩, hchild⟩
  | option ho => exact ⟨.option s, ho.needs (by simp [Format.needs, Format.shape?, hs]), List.mem_singleton_self _⟩
  | sequence ho => exact ⟨.sequence s, ho.needs (by simp [Format.needs, Format.shape?, hs]), List.mem_singleton_self _⟩
  | @array _ size ho =>
    exact ⟨.array s size, ho.needs (by simp [Format.needs, Format.shape?, hs]), List.mem_singleton_self _⟩
  | mapKey ho =>
    obtain ⟨value, hvalue⟩ := h _ ho.mapValue
    exact ⟨entryStruct s value, ho.needs (by simp [Format.needs, hs, hvalue]), List.mem_cons_self⟩
  | mapValue ho =>
    obtain ⟨key, hkey⟩ := h _ ho.mapKey
    exact ⟨entryStruct key s, ho.needs (by simp [Format.needs, hs, hkey]), List.mem_cons_of_mem _ List.mem_cons_self⟩
  | tuple ho hf =>
    obtain ⟨parts, hparts, -, hmem⟩ := exists_shapes? fun g hg => h g (ho.tuple hg)
    refine ⟨tupleStruct parts, ho.needs (by simp [Format.needs, Format.shape?, hparts]), ?_⟩
    rw [tupleStruct_children]
    exact hmem _ hf s hs

/-! ## What references resolve to -/

/-- In a registry whose shapes are registered every format that occurs has a shape. -/
theorem shaped_of_register {t : Table} (h : r.register.result = .ok t) : r.Shaped := by
  intro f ho
  obtain ⟨he, -, -, hw⟩ := register_eq_ok_iff.1 ⟨t, h⟩
  obtain ⟨shapes, s, hg⟩ := exists_gives (fun g hg => ⟨he.1 g hg, hw g hg⟩) f ho
  exact ⟨s, shape?_of_gives f hg⟩

/-- A dependency of a registered shape is registered, or a type name that occurs. -/
theorem needed_or_occurs_of_dependsOn {t : Table} (h : r.register.result = .ok t) {a b : String}
    (hd : r.DependsOn a b) : (∃ s, r.Needs s ∧ s.key = b) ∨ r.Occurs (.typeName b) := by
  obtain ⟨s, hs, -, hb⟩ := hd
  rw [← mem_of_register h] at hs
  rcases Shape.mem_dependencies (t.not_reference s hs) hb with ⟨p, hp, rfl⟩ | ⟨child, hc, rfl⟩
  · exact Or.inl ⟨_, (mem_of_register h _).1 ((inOrder_of_register h).helpers hs p hp), rfl⟩
  · rcases (lowered_of_register h).1.anchored s hs child hc with ⟨name, rfl, ho⟩ | hmem
    · exact Or.inr ho
    · exact Or.inl ⟨child, (mem_of_register h child).1 hmem, rfl⟩

/-- The name of a container is the key of a needed shape. -/
theorem exists_needs_of_container {t : Table} (h : r.register.result = .ok t) {name : String} {c : Container}
    (hc : (name, c) ∈ r) : ∃ s, r.Needs s ∧ s.key = name := by
  obtain ⟨inner, s, hg, hsub⟩ := (lowered_of_register h).2 name c hc
  obtain ⟨-, hs, hk, -⟩ := lowered_body hg hc
  exact ⟨s, (mem_of_register h s).1 (hsub hs), hk⟩

/-- All that registered shapes depend on is registered exactly if all type names resolve. -/
theorem closed_iff_resolves {t : Table} (h : r.register.result = .ok t) : r.Closed ↔ r.Resolves := by
  constructor
  · intro hc name ho
    obtain ⟨parent, hparent, hchild⟩ := exists_parent (shaped_of_register h) ho rfl
    obtain ⟨s, hs, rfl⟩ := hc parent.key name ⟨parent, hparent, rfl, Shape.key_mem_dependencies hchild⟩
    rcases needs_iff.1 hs with hs | ⟨name, c, hc, hshape⟩
    · exact Or.inr ⟨s, hs, rfl⟩
    · rw [Container.shape?_key hshape]
      exact Or.inl ⟨c, hc⟩
  · intro hr a b hd
    rcases needed_or_occurs_of_dependsOn h hd with hneeded | ho
    · exact hneeded
    · rcases hr b ho with ⟨c, hc⟩ | ⟨s, hs, hk⟩
      · exact exists_needs_of_container h hc
      · exact ⟨s, needs_iff.2 (Or.inl hs), hk⟩

/-- Acceptance, with what is asked of type names in the place of what is asked of dependencies. -/
theorem lower_eq_ok_iff_resolves : (∃ t, r.lower.result = .ok t) ↔
    r.Expressible ∧ r.Distinct ∧ Shape.Keyed r.Needs ∧ r.Resolves ∧ r.Acyclic ∧ r.Writable := by
  rw [lower_eq_ok_iff]
  constructor
  · rintro ⟨he, hd, hk, hc, ha, hw⟩
    obtain ⟨t, ht⟩ := register_eq_ok_iff.2 ⟨he, hd, hk, hw⟩
    exact ⟨he, hd, hk, (closed_iff_resolves ht).1 hc, ha, hw⟩
  · rintro ⟨he, hd, hk, hr, ha, hw⟩
    obtain ⟨t, ht⟩ := register_eq_ok_iff.2 ⟨he, hd, hk, hw⟩
    exact ⟨he, hd, hk, (closed_iff_resolves ht).2 hr, ha, hw⟩

/-- A type name that nothing has. -/
def Dangles (r : Registry) (name : String) : Prop :=
  r.Occurs (.typeName name) ∧ (∀ c, (name, c) ∉ r) ∧ ∀ s, r.MakesUp s → s.key ≠ name

theorem not_resolves_iff : ¬r.Resolves ↔ ∃ name, r.Dangles name := by
  simp only [Resolves, Dangles, not_forall, not_or, not_exists, not_and, ne_eq, exists_prop]

/-- A registry is accepted only if each type name that occurs is that of a container or the key of a shape that is
made up; in the second case it refers to that shape. With a type name that nothing has lowering fails, and if all
before that is as it should be, it fails for a cycle or names such a type name. -/
theorem lower_resolves (r : Registry) :
    ((∃ t, r.lower.result = .ok t) ↔
      r.Expressible ∧ r.Distinct ∧ Shape.Keyed r.Needs ∧ r.Resolves ∧ r.Acyclic ∧ r.Writable) ∧
    (∀ t, r.lower.result = .ok t → ∀ name, r.Occurs (.typeName name) → (∀ c, (name, c) ∉ r) →
      ∃ s, r.MakesUp s ∧ t.get? name = some s) ∧
    (∀ name, r.Dangles name → (∃ e, r.lower.result = .error e) ∧
      (r.Expressible → r.Distinct → Shape.Keyed r.Needs → r.Writable →
        r.lower.result = .error .cyclic ∧ ¬r.Acyclic ∨
        ∃ missing, r.lower.result = .error (.unresolved missing) ∧ r.Dangles missing)) := by
  refine ⟨lower_eq_ok_iff_resolves, fun t ht name ho hc => ?_, fun name hname => ⟨?_, fun he hd hk hw => ?_⟩⟩
  · obtain ⟨-, -, -, hr, -⟩ := lower_eq_ok_iff_resolves.1 ⟨t, ht⟩
    rcases hr name ho with ⟨c, hmem⟩ | ⟨s, hs, hk⟩
    · exact absurd hmem (hc c)
    · exact ⟨s, hs, Table.get?_eq_some_iff.2 ⟨(mem_of_lower ht s).2 (needs_iff.2 (Or.inl hs)), hk⟩⟩
  · cases hlower : r.lower.result with
    | error e => exact ⟨e, rfl⟩
    | ok t =>
      obtain ⟨-, -, -, hr, -⟩ := lower_eq_ok_iff_resolves.1 ⟨t, hlower⟩
      exact absurd hr (not_resolves_iff.2 ⟨name, hname⟩)
  · -- all is registered, and the search for a cycle comes to one or to a key that nothing has
    obtain ⟨t, ht⟩ := register_eq_ok_iff.2 ⟨he, hd, hk, hw⟩
    have hg : ¬t.Grounded := fun hg =>
      not_resolves_iff.2 ⟨name, hname⟩ ((closed_iff_resolves ht).1 ((grounded_iff ht).1 hg).1)
    rcases lower_of_not_grounded ht hg with hcyclic | ⟨a, missing, hlower, hdep, hmissing⟩
    · exact Or.inl hcyclic
    · refine Or.inr ⟨missing, hlower, ?_, fun c hc => ?_, fun s hs => hmissing s (needs_iff.2 (Or.inl hs))⟩
      · rcases needed_or_occurs_of_dependsOn ht hdep with ⟨s, hs, hkey⟩ | ho
        · exact absurd hkey (hmissing s hs)
        · exact ho
      · obtain ⟨s, hs, hkey⟩ := exists_needs_of_container ht hc
        exact hmissing s hs hkey

/-- A struct with a number and with a field whose type name is the key of numbers. -/
def aliased : Registry :=
  [("A", .struct [("a", .primitive (.integer false .w8)), ("b", .typeName "uint8")])]

theorem occurs_aliased : aliased.Occurs (.typeName "uint8") :=
  .content (List.mem_singleton_self _) (List.mem_cons_of_mem _ List.mem_cons_self)

theorem not_declared_aliased (c : Container) : ("uint8", c) ∉ aliased := by
  simp [aliased]

theorem lower_aliased : ∃ t, aliased.lower.result = .ok t :=
  ⟨_, rfl⟩

/-- The type name in the first registry refers to the type of numbers, that in the second one to nothing. -/
theorem lower_resolves_aliased : (∃ t s, aliased.lower.result = .ok t ∧ aliased.MakesUp s ∧ t.get? "uint8" = some s) ∧
    (single (.typeName "Missing")).lower.result = .error (.unresolved "Missing") := by
  refine ⟨?resolved, ?missing⟩
  case resolved =>
    obtain ⟨t, ht⟩ := lower_aliased
    obtain ⟨s, hs⟩ := (lower_resolves aliased).2.1 t ht "uint8" occurs_aliased not_declared_aliased
    exact ⟨t, s, ht, hs⟩
  case missing =>
    have hdangles : (single (.typeName "Missing")).Dangles "Missing" := by
      refine ⟨.content (List.mem_singleton_self _) (List.mem_singleton_self _), fun c hc => ?_, fun s hs hk => ?_⟩
      · exact absurd (contents_single hc).1 (by decide)
      · cases needs_loop.1 (needs_iff.2 (Or.inl hs))
        exact absurd hk (by decide)
    have hkeyed : Shape.Keyed (single (.typeName "Missing")).Needs := fun s s' hs hs' _ => by
      rw [needs_loop.1 hs, needs_loop.1 hs']
    have hacyclic : (single (.typeName "Missing")).Acyclic := by
      refine @acyclic_of_lt _ (fun key => if key = "A" then 1 else 0) ?_
      rintro a b ⟨s, hs, rfl, hb⟩
      cases needs_loop.1 hs
      cases List.mem_singleton.1 hb
      decide
    rcases ((lower_resolves (single (.typeName "Missing"))).2.2 "Missing" hdangles).2
      (expressible_single fun f ho => by cases occurs_loop ho; rfl) distinct_single hkeyed
      (fun f ho => by cases occurs_loop ho; rfl) with ⟨-, hcyclic⟩ | ⟨missing, hlower, ho, -⟩
    · exact absurd hacyclic hcyclic
    · cases occurs_loop ho
      exact hlower

/-- A registry is accepted although a type name is not that of a container. -/
theorem not_declares_aliased : (∃ t, aliased.lower.result = .ok t) ∧ ¬aliased.Declares := by
  refine ⟨lower_aliased, fun h => ?_⟩
  obtain ⟨c, hc⟩ := h "uint8" occurs_aliased
  exact not_declared_aliased c hc

end Registry

end SolidityWire
