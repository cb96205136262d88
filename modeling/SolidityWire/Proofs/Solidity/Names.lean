/-
The names that a source unit declares. In a struct they are distinct, and so they are in an enumeration unless two
of its variants are called alike once their names can be declared. Neither fields nor members nor local variables
are called by reserved words; types have the names of containers as they are.
-/
import SolidityWire.Proofs.Solidity.Generation

namespace SolidityWire.Solidity

/-! ## Names of a shape -/

section Shapes

variable {r : Registry} {s : Shape}

/-- No two fields of a shape have one name. -/
theorem nodup_fieldNames (h : s.HasFields) : s.fieldNames.Nodup := by
  cases s with
  | primitive p =>
    cases p with
    | unit => exact List.nodup_singleton _
    | _ => exact List.nodup_nil
  | option _ => exact (by decide : ["has_value", "value"].Nodup)
  | array _ _ => exact List.nodup_singleton _
  | struct _ _ => exact h.2
  | taggedEnum _ _ => exact h.2
  | reference _ | sequence _ | simpleEnum _ _ => exact List.nodup_nil

/-- Only enumerations whose variants carry nothing have members. -/
theorem nodup_memberNames (h : r.Origin s)
    (hvariants : ∀ name vs, (name, .enum vs) ∈ r → vs.all (·.format.isUnit) = true →
      (vs.map fun v => safeName v.name).Nodup) : s.memberNames.Nodup := by
  cases h with
  | simpleEnum hc hunit =>
    have hnodup := hvariants _ _ hc hunit
    rwa [Shape.memberNames, List.map_map]
  | _ => exact List.nodup_nil

theorem memberNames_safe : ∀ name ∈ s.memberNames, isReserved name = false := by
  intro name hname
  cases s with
  | simpleEnum _ members =>
    obtain ⟨m, -, rfl⟩ := List.mem_map.1 hname
    exact isReserved_safeName m
  | _ => cases hname

/-- The shape of a container is declared under the container's name. -/
theorem typeNames_of_container {name : String} {c : Container} (h : c.shape? name = some s) : typeNames s = [name] := by
  cases c with
  | unitStruct => cases h
  | newTypeStruct _ | tupleStruct _ | struct _ =>
    obtain ⟨ss, rfl⟩ := exists_fieldShapes h
    rfl
  | enum vs =>
    simp only [Container.shape?] at h
    split at h
    · cases h
      rfl
    · cases h
      rfl

/-- A type whose name is a reserved word is that of a container. -/
theorem container_of_typeNames (h : r.Origin s) {name : String} (hname : name ∈ typeNames s)
    (hreserved : isReserved name = true) : ∃ c, (name, c) ∈ r := by
  have hkey : name = "empty_struct" ∨ s.key = name ∧ ∀ p, s ≠ .primitive p := by
    cases s with
    | primitive p =>
      cases p with
      | unit => exact Or.inl (List.mem_singleton.1 hname)
      | _ => cases hname
    | reference _ | sequence _ => cases hname
    | _ => exact Or.inr ⟨(List.mem_singleton.1 hname).symm, fun p => nofun⟩
  rcases hkey with rfl | ⟨rfl, hprimitive⟩
  · exact absurd hreserved (by decide +kernel)
  · rcases h.key with hc | ⟨p, rfl⟩ | hunderscore
    · exact hc
    · exact absurd rfl (hprimitive p)
    · rw [isReserved_of_underscore hunderscore] at hreserved
      cases hreserved

theorem ownLocals_safe : ∀ name ∈ ownLocals, isReserved name = false := by
  decide +kernel

/-- The local variable of a field is called like the field, or by a name with an underscore. -/
theorem isReserved_localName (t : Table) {field : String} (h : isReserved field = false) :
    isReserved (localName t field) = false := by
  unfold localName
  split
  · exact isReserved_of_underscore (by simp [String.toList_append])
  · exact h

end Shapes

/-! ## Names of a source unit -/

section Tables

variable {r : Registry} {t : Table}

theorem mem_declarations {config : Config} {d : Declaration} :
    d ∈ (Source.whole t config).declarations ↔ ∃ s ∈ t.shapes, d ∈ groupOf t s := by
  rw [declarations_whole, List.mem_flatMap]

/-- The members of an enumeration are declared as they are. -/
theorem enum_mem_groupOf (name : String) (members : List String) :
    .enum name (members.map safeName) ∈ groupOf t (.simpleEnum name members) :=
  List.mem_cons_self

theorem nodup_declared_fields (h : r.lower.result = .ok t) (config : Config) :
    ∀ d ∈ (Source.whole t config).declarations, d.fieldNames.Nodup := by
  intro d hd
  obtain ⟨s, hs, hd⟩ := mem_declarations.1 hd
  have hnodup : ((groupOf t s).flatMap Declaration.fieldNames).Nodup := by
    rw [(declared_of_lower h hs).2.fields]
    exact nodup_fieldNames (hasFields_of_lower h hs)
  exact (List.nodup_flatMap.1 hnodup).1 d hd

/-- The members of each enumeration are distinct exactly if the names of the variants are, as they can be declared. -/
theorem nodup_declared_members (h : r.lower.result = .ok t) (config : Config) :
    (∀ d ∈ (Source.whole t config).declarations, d.memberNames.Nodup) ↔
      ∀ name vs, (name, .enum vs) ∈ r → vs.all (·.format.isUnit) = true → (vs.map fun v => safeName v.name).Nodup := by
  constructor
  · intro hall name vs hc hunit
    obtain ⟨s, hs, hshape⟩ := (Registry.lowers_of_lower h).exists_shape hc
    simp only [Container.shape?, hunit, if_true, Option.some.injEq] at hshape
    subst hshape
    have hnodup := hall _ (mem_declarations.2 ⟨_, hs, enum_mem_groupOf _ _⟩)
    rwa [Declaration.memberNames, List.map_map] at hnodup
  · intro hvariants d hd
    obtain ⟨s, hs, hd⟩ := mem_declarations.1 hd
    have hnodup : ((groupOf t s).flatMap Declaration.memberNames).Nodup := by
      rw [(declared_of_lower h hs).2.members]
      exact nodup_memberNames (Registry.origin_of_lower h hs) hvariants
    exact (List.nodup_flatMap.1 hnodup).1 d hd

theorem declared_names_safe (h : r.lower.result = .ok t) (config : Config) :
    ∀ d ∈ (Source.whole t config).declarations, ∀ name ∈ d.fieldNames ++ d.memberNames, isReserved name = false := by
  intro d hd name hname
  obtain ⟨s, hs, hd⟩ := mem_declarations.1 hd
  have hdeclares := (declared_of_lower h hs).2
  rcases List.mem_append.1 hname with hname | hname
  · refine (Registry.origin_of_lower h hs).fieldNames_safe name ?_
    rw [← hdeclares.fields]
    exact List.mem_flatMap.2 ⟨d, hd, hname⟩
  · refine memberNames_safe name (s := s) ?_
    rw [← hdeclares.members]
    exact List.mem_flatMap.2 ⟨d, hd, hname⟩

theorem locals_safe (h : r.lower.result = .ok t) (config : Config) :
    ∀ f ∈ (Source.whole t config).allFunctions, ∀ name ∈ f.locals, isReserved name = false := by
  intro f hf name hname
  rcases List.mem_append.1 hf with hf | hf
  · have hlengths : ∀ f ∈ [encodeLength, decodeLength], f.locals ⊆ ownLocals :=
      List.forall_mem_cons.2 ⟨by decide, List.forall_mem_singleton.2 (by decide)⟩
    exact ownLocals_safe name (hlengths f hf hname)
  · obtain ⟨d, hd, hfunction⟩ := List.mem_filterMap.1 hf
    obtain ⟨s, hs, hd⟩ := mem_declarations.1 hd
    have hlocals := (declared_of_lower h hs).2.locals
      (List.mem_flatMap.2 ⟨f, List.mem_filterMap.2 ⟨d, hd, hfunction⟩, hname⟩)
    rcases List.mem_append.1 hlocals with hown | hfield
    · exact ownLocals_safe name hown
    · obtain ⟨field, hmem, rfl⟩ := List.mem_map.1 hfield
      exact isReserved_localName t ((Registry.origin_of_lower h hs).fieldNames_safe field hmem)

theorem typeName_declared_iff (h : r.lower.result = .ok t) (config : Config) {name : String}
    (hreserved : isReserved name = true) :
    (∃ d ∈ (Source.whole t config).declarations, d.typeName? = some name) ↔ ∃ c, (name, c) ∈ r := by
  constructor
  · rintro ⟨d, hd, hname⟩
    obtain ⟨s, hs, hd⟩ := mem_declarations.1 hd
    have hmem : name ∈ typeNames s := by
      rw [← (declared_of_lower h hs).2.types]
      exact List.mem_filterMap.2 ⟨d, hd, hname⟩
    exact container_of_typeNames (Registry.origin_of_lower h hs) hmem hreserved
  · rintro ⟨c, hc⟩
    obtain ⟨s, hs, hshape⟩ := (Registry.lowers_of_lower h).exists_shape hc
    have hmem : name ∈ (groupOf t s).filterMap Declaration.typeName? := by
      rw [(declared_of_lower h hs).2.types, typeNames_of_container hshape]
      exact List.mem_cons_self
    obtain ⟨d, hd, hname⟩ := List.mem_filterMap.1 hmem
    exact ⟨d, mem_declarations.2 ⟨s, hs, hd⟩, hname⟩

end Tables

/-! ## Distinct names -/

/-- The fields of every struct are distinct as they are declared, and so are the members of every enumeration if and
only if no two variants of an enumeration whose variants carry nothing are called alike as they can be declared. -/
theorem members_distinct {r : Registry} {t : Table} (h : r.lower.result = .ok t) (config : Config) :
    ∃ source, Source.ofTable t config = .ok source ∧ writeTable t config = .ok source.text ∧
      (∀ d ∈ source.declarations, d.fieldNames.Nodup) ∧
      ((∀ d ∈ source.declarations, d.memberNames.Nodup) ↔
        ∀ name vs, (name, .enum vs) ∈ r → vs.all (·.format.isUnit) = true → (vs.map fun v => safeName v.name).Nodup) :=
  ⟨_, ofTable_eq h config, writeTable_eq h config, nodup_declared_fields h config, nodup_declared_members h config⟩

/-- An enumeration of two variants without content. -/
def choices (first second : String) : Registry :=
  [("E", .enum [⟨0, first, .unit⟩, ⟨1, second, .unit⟩])]

/-- The members `a` and `b` are distinct. -/
theorem members_distinct_letters : ∃ t source, (choices "a" "b").lower.result = .ok t ∧
    Source.ofTable t plain.config = .ok source ∧ ∀ d ∈ source.declarations, d.memberNames.Nodup := by
  obtain ⟨t, ht⟩ : ∃ t, (choices "a" "b").lower.result = .ok t := ⟨_, rfl⟩
  obtain ⟨source, hsource, -, -, hmembers⟩ := members_distinct ht plain.config
  refine ⟨t, source, ht, hsource, hmembers.2 fun name vs hc _ => ?_⟩
  cases List.mem_singleton.1 hc
  decide +kernel

/-- A reserved word and the name with an underscore give one member twice. -/
theorem member_twice : ∃ t source, (choices "bool" "bool_").lower.result = .ok t ∧
    Source.ofTable t plain.config = .ok source ∧ .enum "E" ["bool_", "bool_"] ∈ source.declarations := by
  obtain ⟨t, ht⟩ : ∃ t, (choices "bool" "bool_").lower.result = .ok t := ⟨_, rfl⟩
  obtain ⟨s, hs, hshape⟩ := (Registry.lowers_of_lower ht).exists_shape (List.mem_singleton_self _)
  cases hshape
  refine ⟨t, _, ht, ofTable_eq ht plain.config, mem_declarations.2 ⟨_, hs, ?_⟩⟩
  have hsafe : ["bool", "bool_"].map safeName = ["bool_", "bool_"] := by decide +kernel
  exact hsafe ▸ enum_mem_groupOf "E" ["bool", "bool_"]

/-! ## Reserved words -/

/-- Neither a field nor a member nor a local variable is called by a reserved word. A type is called by a reserved
word if and only if a container is. -/
theorem reserved_declared_iff {r : Registry} {t : Table} (h : r.lower.result = .ok t) (config : Config) :
    ∃ source, Source.ofTable t config = .ok source ∧ writeTable t config = .ok source.text ∧
      (∀ d ∈ source.declarations, ∀ name ∈ d.fieldNames ++ d.memberNames, isReserved name = false) ∧
      (∀ f ∈ source.allFunctions, ∀ name ∈ f.locals, isReserved name = false) ∧
      ∀ name, isReserved name = true →
        ((∃ d ∈ source.declarations, d.typeName? = some name) ↔ ∃ c, (name, c) ∈ r) :=
  ⟨_, ofTable_eq h config, writeTable_eq h config, declared_names_safe h config, locals_safe h config,
    fun _ => typeName_declared_iff h config⟩

/-- The type of a pair is not called by a reserved word. -/
theorem reserved_declared_iff_pair : ∃ t source, Registry.pair.lower.result = .ok t ∧
    Source.ofTable t plain.config = .ok source ∧
    ∀ name, isReserved name = true → ¬∃ d ∈ source.declarations, d.typeName? = some name := by
  obtain ⟨t, ht⟩ := lower_pair
  obtain ⟨source, hsource, -, -, -, htypes⟩ := reserved_declared_iff ht plain.config
  refine ⟨t, source, ht, hsource, fun name hreserved hdeclared => ?_⟩
  obtain ⟨c, hc⟩ := (htypes name hreserved).1 hdeclared
  cases List.mem_singleton.1 hc
  exact absurd hreserved (by decide +kernel)

/-- A struct that is called by a reserved word. -/
def addressStruct : Registry :=
  [("address", .struct [("a", .primitive (.integer false .w8))])]

/-- The type is declared under the reserved word. -/
theorem address_declared : ∃ t source, addressStruct.lower.result = .ok t ∧
    Source.ofTable t plain.config = .ok source ∧
    ∃ d ∈ source.declarations, ∃ name, d.typeName? = some name ∧ isReserved name = true := by
  obtain ⟨t, ht⟩ : ∃ t, addressStruct.lower.result = .ok t := ⟨_, rfl⟩
  have hreserved : isReserved "address" = true := by decide +kernel
  obtain ⟨d, hd, hname⟩ := (typeName_declared_iff ht plain.config hreserved).2 ⟨_, List.mem_singleton_self _⟩
  exact ⟨t, _, ht, ofTable_eq ht plain.config, d, hd, "address", hname, hreserved⟩

end SolidityWire.Solidity
