/-
What lowering registers: with each shape the shapes that it is built from, except references, which
stand for type names that occur in the registry. Keys are put together from the keys of these shapes and
from names of the registry, and under the name of a container there is a struct or an enumeration.
-/
import SolidityWire.Proofs.Schema.Occurs
import SolidityWire.Proofs.Shape.FormatPlan

namespace SolidityWire

open Plan

/-! ## Registered shapes -/

/-- A reference to a type name of the registry, or a registered shape. -/
def Anchored (r : Registry) (shapes : List Shape) (s : Shape) : Prop :=
  (∃ name, s = .reference name ∧ r.Occurs (.typeName name)) ∨ s ∈ shapes

/-- A shape as lowering registers it: no reference, its size that of an array, and its key a name if
those of its children are. -/
structure Shape.Proper (r : Registry) (s : Shape) : Prop where
  solid : s.isReference = false
  size : ∀ element n, s = .array element n → 0 ≤ n
  named : r.IsNamed → (∀ child ∈ s.children, Text.IsName child.key) → Text.IsName s.key

/-- Shapes that lowering has registered, each with its children. -/
structure Lowered (r : Registry) (shapes : List Shape) : Prop where
  anchored : ∀ s ∈ shapes, ∀ child ∈ s.children, Anchored r shapes child
  proper : ∀ s ∈ shapes, s.Proper r

variable {r : Registry}

theorem Anchored.mono {shapes shapes' : List Shape} {s : Shape} (h : Anchored r shapes s) (hs : shapes ⊆ shapes') :
    Anchored r shapes' s :=
  h.imp_right fun h => hs h

theorem Lowered.nil : Lowered r [] :=
  ⟨fun _ h => (nomatch h), fun _ h => (nomatch h)⟩

theorem Lowered.append {front back : List Shape} (hf : Lowered r front) (hb : Lowered r back) :
    Lowered r (front ++ back) where
  anchored s hs child hc := by
    rcases List.mem_append.1 hs with hs | hs
    · exact (hf.anchored s hs child hc).mono (List.subset_append_left ..)
    · exact (hb.anchored s hs child hc).mono (List.subset_append_right ..)
  proper s hs := (List.mem_append.1 hs).elim (hf.proper s) (hb.proper s)

theorem Lowered.concat {shapes : List Shape} {s : Shape} (h : Lowered r shapes)
    (hc : ∀ child ∈ s.children, Anchored r shapes child) (hp : s.Proper r) : Lowered r (shapes ++ [s]) where
  anchored x hx child hchild := by
    rcases List.mem_append.1 hx with hx | hx
    · exact (h.anchored x hx child hchild).mono (List.subset_append_left ..)
    · cases List.mem_singleton.1 hx
      exact (hc child hchild).mono (List.subset_append_left ..)
  proper x hx := (List.mem_append.1 hx).elim (h.proper x) fun hx => List.mem_singleton.1 hx ▸ hp

theorem anchored_concat (shapes : List Shape) (s : Shape) : Anchored r (shapes ++ [s]) s :=
  Or.inr (List.mem_append_right _ List.mem_cons_self)

/-- The characters of a name that is given can be checked. -/
theorem isName_literal {s : String} (h : s.toList.all Text.isNameChar = true) : Text.IsName s :=
  List.all_eq_true.1 h

theorem lowered_primitive (p : Primitive) : Lowered r [.primitive p] := by
  refine Lowered.nil.concat (s := .primitive p) (fun _ h => nomatch h) ⟨rfl, fun _ _ h => (nomatch h), fun _ _ => ?_⟩
  cases p with
  | integer signed width => cases signed <;> cases width <;> exact isName_literal (by decide)
  | _ => exact isName_literal (by decide)
/-! ## Formats -/

mutual

theorem lowered_format : ∀ (f : Format) {shapes : List Shape} {s : Shape}, f.plan.Gives shapes s → r.Occurs f →
    Lowered r shapes ∧ Anchored r shapes s
  | .primitive p, _, _, h, _ => by
    obtain ⟨rfl, rfl⟩ := gives_primitive.1 h
    exact ⟨lowered_primitive p, anchored_concat [] _⟩
  | .float32, _, _, h, _ => (gives_stop h).elim
  | .float64, _, _, h, _ => (gives_stop h).elim
  | .variable _, _, _, h, _ => (gives_stop h).elim
  | .typeName name, _, _, h, ho => by
    obtain ⟨rfl, rfl⟩ := gives_typeName.1 h
    exact ⟨.nil, Or.inl ⟨name, rfl, ho⟩⟩
  | .option content, _, _, h, ho => by
    obtain ⟨inner, value, hc, rfl, rfl⟩ := gives_option.1 h
    obtain ⟨hl, ha⟩ := lowered_format content hc ho.option
    refine ⟨((lowered_primitive _).append hl).concat ?_ ⟨rfl, fun _ _ h => (nomatch h), ?_⟩, anchored_concat _ _⟩
    · exact List.forall_mem_singleton.2 (ha.mono (List.subset_append_right ..))
    · exact fun _ hn => (isName_literal rfl).append (hn value List.mem_cons_self)
  | .sequence content, _, _, h, ho => by
    obtain ⟨inner, element, hc, rfl, rfl⟩ := gives_sequence.1 h
    obtain ⟨hl, ha⟩ := lowered_format content hc ho.sequence
    refine ⟨((lowered_primitive _).append hl).concat ?_ ⟨rfl, fun _ _ h => (nomatch h), ?_⟩, anchored_concat _ _⟩
    · exact List.forall_mem_singleton.2 (ha.mono (List.subset_append_right ..))
    · exact fun _ hn => (isName_literal rfl).append (hn element List.mem_cons_self)
  | .map key value, _, _, h, ho => by
    obtain ⟨ks, k, vs, v, hk, hv, rfl, rfl⟩ := gives_map.1 h
    obtain ⟨hlk, hak⟩ := lowered_format key hk ho.mapKey
    obtain ⟨hlv, hav⟩ := lowered_format value hv ho.mapValue
    -- the struct of an entry comes behind the shapes of key and value, and the list of entries behind it
    have hentry : Lowered r ([.primitive (.integer false .w64)] ++ ks ++ vs ++ [entryStruct k v]) := by
      refine (((lowered_primitive _).append hlk).append hlv).concat (List.forall_mem_cons.2 ⟨?_,
        List.forall_mem_singleton.2 ?_⟩) ⟨rfl, fun _ _ h => (nomatch h), fun _ hn => ?_⟩
      · exact hak.mono (List.Subset.trans (List.subset_append_right ..) (List.subset_append_left ..))
      · exact hav.mono (List.subset_append_right ..)
      · exact (((isName_literal rfl).append (hn k List.mem_cons_self)).append (isName_literal rfl)).append
          (hn v (List.mem_cons_of_mem _ List.mem_cons_self))
    refine ⟨hentry.concat (List.forall_mem_singleton.2 (anchored_concat _ _)) ⟨rfl, fun _ _ h => (nomatch h), ?_⟩,
      anchored_concat _ _⟩
    exact fun _ hn => (isName_literal rfl).append (hn (entryStruct k v) List.mem_cons_self)
  | .tuple [], _, _, h, _ => (gives_stop h).elim
  | .tuple (content :: contents), _, _, h, ho => by
    obtain ⟨-, inner, parts, hc, rfl, rfl⟩ := gives_tuple.1 h
    obtain ⟨hl, ha⟩ := lowered_formats (content :: contents) hc fun f hf => ho.tuple hf
    refine ⟨hl.concat ?_ ⟨rfl, fun _ _ h => (nomatch h), fun _ hn => ?_⟩, anchored_concat _ _⟩
    · rwa [tupleStruct_children]
    · rw [tupleStruct_children] at hn
      exact (isName_literal rfl).append
        (Text.IsName.intercalate (isName_literal rfl) fun _ hk => by
          obtain ⟨part, hp, rfl⟩ := List.mem_map.1 hk
          exact hn part hp)
  | .array content size, _, _, h, ho => by
    obtain ⟨-, inner, element, hc, rfl, rfl⟩ := gives_array.1 h
    obtain ⟨hl, ha⟩ := lowered_format content hc ho.array
    refine ⟨hl.concat (List.forall_mem_singleton.2 ha) ⟨rfl, fun _ n h => ?_, fun _ hn => ?_⟩, anchored_concat _ _⟩
    · cases h; exact Int.natCast_nonneg size
    · exact (((isName_literal rfl).append (Text.isName_toString size)).append (isName_literal rfl)).append
        (hn element List.mem_cons_self)

theorem lowered_formats : ∀ (fs : List Format) {shapes : List Shape} {ss : List Shape},
    (Format.plans fs).Gives shapes ss → (∀ f ∈ fs, r.Occurs f) →
    Lowered r shapes ∧ ∀ s ∈ ss, Anchored r shapes s
  | [], _, _, h, _ => by
    obtain ⟨rfl, rfl⟩ := gives_plans_nil.1 h
    exact ⟨.nil, fun _ h => nomatch h⟩
  | f :: fs, _, _, h, ho => by
    obtain ⟨front, s, back, ss, hf, hfs, rfl, rfl⟩ := gives_plans_cons.1 h
    obtain ⟨hl, ha⟩ := lowered_format f hf (ho f List.mem_cons_self)
    obtain ⟨hl', ha'⟩ := lowered_formats fs hfs fun f hf => ho f (List.mem_cons_of_mem _ hf)
    refine ⟨hl.append hl', List.forall_mem_cons.2 ⟨ha.mono (List.subset_append_left ..), fun x hx => ?_⟩⟩
    exact (ha' x hx).mono (List.subset_append_right ..)

end
/-! ## Containers -/

theorem lowered_structPlan {name : String} {fields : List (String × Format)} {shapes : List Shape} {s : Shape}
    (h : (structPlan name fields).Gives shapes s) (ho : ∀ f ∈ fields.map Prod.snd, r.Occurs f)
    (hname : r.IsNamed → Text.IsName name) : Lowered r shapes ∧ Anchored r shapes s := by
  obtain ⟨inner, ss, hfs, -, rfl, rfl⟩ := gives_structPlan.1 h
  obtain ⟨hl, ha⟩ := lowered_formats _ hfs ho
  refine ⟨hl.concat (fun child hc => ?_) ⟨rfl, fun _ _ h => (nomatch h), fun hr _ => hname hr⟩, anchored_concat _ _⟩
  obtain ⟨field, hf, rfl⟩ := List.mem_map.1 hc
  exact ha field.2 (List.of_mem_zip hf).2

theorem lowered_variant {enumName variant : String} {vf : VariantFormat} {shapes : List Shape}
    {payload : Option Shape} (h : (vf.plan enumName variant).Gives shapes payload)
    (ho : ∀ f ∈ vf.contents, r.Occurs f) (hname : r.IsNamed → Text.IsName enumName ∧ Text.IsName variant) :
    Lowered r shapes ∧ ∀ s ∈ payload, Anchored r shapes s := by
  have hname' : r.IsNamed → Text.IsName (enumName ++ "_" ++ variant) := fun hr =>
    ((hname hr).1.append (isName_literal rfl)).append (hname hr).2
  -- what is put into the payload is a shape that is lowered
  have some_payload : ∀ {p : Plan Shape}, (∀ {inner s}, p.Gives inner s → Lowered r inner ∧ Anchored r inner s) →
      (p >>= fun s => pure (some s)).Gives shapes payload → Lowered r shapes ∧ ∀ s ∈ payload, Anchored r shapes s := by
    intro p hp h
    obtain ⟨s, inner, _, h1, h2, rfl⟩ := gives_bind.1 h
    obtain ⟨rfl, rfl⟩ := gives_pure.1 h2
    rw [List.append_nil]
    exact ⟨(hp h1).1, fun s' hs' => Option.some.inj hs' ▸ (hp h1).2⟩
  cases vf with
  | unit =>
    obtain ⟨rfl, rfl⟩ := gives_pure.1 h
    exact ⟨.nil, fun _ h => nomatch h⟩
  | newType content => exact some_payload (fun hc => lowered_format content hc (ho content List.mem_cons_self)) h
  | tuple contents =>
    simp only [VariantFormat.plan] at h
    split at h
    · exact (gives_stop h).elim
    · exact some_payload (fun hs => lowered_structPlan hs (by rwa [entryNames_map_snd]) hname') h
  | struct fields =>
    simp only [VariantFormat.plan] at h
    split at h
    · exact (gives_stop h).elim
    · exact some_payload (fun hs => lowered_structPlan hs ho hname') h
  | _ => exact (gives_stop h).elim

theorem lowered_variants {enumName : String} : ∀ {vs : List IndexedVariant} {shapes : List Shape}
    {variants : List (String × Option String × Option Shape)}, (variantsPlan enumName vs).Gives shapes variants →
    (∀ v ∈ vs, ∀ f ∈ v.format.contents, r.Occurs f) →
    (r.IsNamed → Text.IsName enumName ∧ ∀ v ∈ vs, Text.IsName v.name) →
    Lowered r shapes ∧ ∀ p ∈ Shape.payloads variants, Anchored r shapes p.2
  | [], _, _, h, _, _ => by
    obtain ⟨rfl, rfl⟩ := gives_pure.1 h
    exact ⟨.nil, fun _ h => nomatch h⟩
  | v :: vs, _, _, h, ho, hname => by
    obtain ⟨front, payload, back, variants, hv, hvs, rfl, rfl⟩ := gives_variantsPlan_cons.1 h
    obtain ⟨hl, ha⟩ := lowered_variant hv (ho v List.mem_cons_self)
      fun hr => ⟨(hname hr).1, (hname hr).2 v List.mem_cons_self⟩
    obtain ⟨hl', ha'⟩ := lowered_variants hvs (fun w hw => ho w (List.mem_cons_of_mem _ hw))
      fun hr => ⟨(hname hr).1, fun w hw => (hname hr).2 w (List.mem_cons_of_mem _ hw)⟩
    refine ⟨hl.append hl', fun p hp => ?_⟩
    cases payload with
    | none => exact (ha' p hp).mono (List.subset_append_right ..)
    | some s =>
      rcases List.mem_cons.1 hp with rfl | hp
      · exact (ha s rfl).mono (List.subset_append_left ..)
      · exact (ha' p hp).mono (List.subset_append_right ..)

/-- Whether the null value is one of the shape's own. -/
def Shape.canBeNull : Shape → Bool
  | .option _ | .primitive .unit => true
  | _ => false

/-- Under the name of a container there is a shape that null is no value of. -/
theorem lowered_body {name : String} {c : Container} {shapes : List Shape} {s : Shape}
    (h : (c.bodyPlan name).Gives shapes s) (hc : (name, c) ∈ r) :
    Lowered r shapes ∧ s ∈ shapes ∧ s.key = name ∧ s.isReference = false ∧ s.canBeNull = false := by
  have ho : ∀ f ∈ c.contents, r.Occurs f := fun f hf => .content hc hf
  have hname : r.IsNamed → Text.IsName name := fun hr => hr.container name c hc
  have ofStruct : ∀ {fields}, (structPlan name fields).Gives shapes s → (∀ f ∈ fields.map Prod.snd, r.Occurs f) →
      Lowered r shapes ∧ s ∈ shapes ∧ s.key = name ∧ s.isReference = false ∧ s.canBeNull = false := by
    intro fields hs hf
    have hl := (lowered_structPlan hs hf hname).1
    obtain ⟨inner, ss, -, -, rfl, rfl⟩ := gives_structPlan.1 hs
    exact ⟨hl, List.mem_append_right _ List.mem_cons_self, rfl, rfl, rfl⟩
  cases c with
  | unitStruct => exact (gives_stop h).elim
  | newTypeStruct content => exact ofStruct h ho
  | tupleStruct contents =>
    simp only [Container.bodyPlan] at h
    split at h
    · exact (gives_stop h).elim
    · exact ofStruct h (by rwa [entryNames_map_snd])
  | struct fields =>
    simp only [Container.bodyPlan] at h
    split at h
    · exact (gives_stop h).elim
    · exact ofStruct h ho
  | enum vs =>
    have hvs : ∀ v ∈ vs, ∀ f ∈ v.format.contents, r.Occurs f := fun v hv f hf =>
      ho f (List.mem_flatMap.2 ⟨v, hv, hf⟩)
    rcases gives_enumPlan h with ⟨-, rfl, rfl⟩ | ⟨-, inner, variants, hv, -, rfl, rfl⟩
    · refine ⟨Lowered.nil.concat (s := .simpleEnum ..) (fun _ h => nomatch h) ⟨rfl, fun _ _ h => (nomatch h),
        fun hr _ => hname hr⟩, List.mem_cons_self, rfl, rfl, rfl⟩
    · obtain ⟨hl, ha⟩ := lowered_variants hv hvs fun hr => ⟨hname hr, hr.variant name _ hc⟩
      refine ⟨(hl.append (lowered_primitive _)).concat (fun child hchild => ?_) ⟨rfl, fun _ _ h => (nomatch h),
        fun hr _ => hname hr⟩, List.mem_append_right _ List.mem_cons_self, rfl, rfl, rfl⟩
      obtain ⟨p, hp, rfl⟩ := List.mem_map.1 hchild
      exact (ha p hp).mono (List.subset_append_left ..)

/-! ## Registries -/

theorem lowered_registry : ∀ {cs : Registry} {shapes : List Shape}, (Registry.plan cs).Gives shapes () → cs ⊆ r →
    Lowered r shapes ∧ ∀ name c, (name, c) ∈ cs → ∃ inner s, (c.bodyPlan name).Gives inner s ∧ inner ⊆ shapes
  | [], _, h, _ => by
    obtain ⟨rfl, -⟩ := gives_pure.1 h
    exact ⟨.nil, fun _ _ h => nomatch h⟩
  | (name, c) :: rest, _, h, hr => by
    obtain ⟨_, _, back, h1, h2, rfl⟩ := gives_bind.1 h
    obtain ⟨_, _, front, h3, h4, rfl⟩ := gives_bind.1 h1
    rw [gives_step] at h3
    subst h3
    have hl := (lowered_body h4 (hr List.mem_cons_self)).1
    obtain ⟨hl', hbody⟩ := lowered_registry h2 fun p hp => hr (List.mem_cons_of_mem _ hp)
    refine ⟨hl.append hl', fun name' c' hc => ?_⟩
    rcases List.mem_cons.1 hc with he | hc
    · cases he; exact ⟨front, _, h4, List.subset_append_left ..⟩
    · obtain ⟨inner, s, hg, hsub⟩ := hbody name' c' hc
      exact ⟨inner, s, hg, List.Subset.trans hsub (List.subset_append_right ..)⟩

/-- The shapes have all that the plan of a format registers. -/
def Planned (shapes : List Shape) (f : Format) : Prop :=
  ∃ inner s, f.plan.Gives inner s ∧ inner ⊆ shapes

theorem Planned.mono {shapes shapes' : List Shape} {f : Format} (h : Planned shapes f) (hs : shapes ⊆ shapes') :
    Planned shapes' f := by
  obtain ⟨inner, s, hg, hsub⟩ := h
  exact ⟨inner, s, hg, List.Subset.trans hsub hs⟩

theorem planned_of_plans : ∀ {fs : List Format} {shapes ss : List Shape}, (Format.plans fs).Gives shapes ss →
    ∀ f ∈ fs, Planned shapes f
  | _ :: _, _, _, h, f, hf => by
    obtain ⟨front, s, back, ss, h1, h2, rfl, rfl⟩ := gives_plans_cons.1 h
    rcases List.mem_cons.1 hf with rfl | hf
    · exact ⟨front, s, h1, List.subset_append_left ..⟩
    · exact (planned_of_plans h2 f hf).mono (List.subset_append_right ..)

theorem planned_of_structPlan {name : String} {fields : List (String × Format)} {shapes : List Shape} {s : Shape}
    (h : (structPlan name fields).Gives shapes s) : ∀ f ∈ fields.map Prod.snd, Planned shapes f := by
  obtain ⟨inner, ss, hfs, -, rfl, rfl⟩ := gives_structPlan.1 h
  exact fun f hf => (planned_of_plans hfs f hf).mono (List.subset_append_left ..)

theorem planned_of_variant {enumName variant : String} {vf : VariantFormat} {shapes : List Shape}
    {payload : Option Shape} (h : (vf.plan enumName variant).Gives shapes payload) :
    ∀ f ∈ vf.contents, Planned shapes f := by
  cases vf with
  | unit => exact fun _ h => nomatch h
  | newType content =>
    obtain ⟨s, inner, _, h1, -, rfl⟩ := gives_bind.1 h
    exact List.forall_mem_singleton.2 ⟨inner, s, h1, List.subset_append_left ..⟩
  | tuple contents =>
    simp only [VariantFormat.plan] at h
    split at h
    · exact (gives_stop h).elim
    · obtain ⟨s, inner, _, h1, -, rfl⟩ := gives_bind.1 h
      have hs := planned_of_structPlan h1
      rw [entryNames_map_snd] at hs
      exact fun f hf => (hs f hf).mono (List.subset_append_left ..)
  | struct fields =>
    simp only [VariantFormat.plan] at h
    split at h
    · exact (gives_stop h).elim
    · obtain ⟨s, inner, _, h1, -, rfl⟩ := gives_bind.1 h
      exact fun f hf => (planned_of_structPlan h1 f hf).mono (List.subset_append_left ..)
  | _ => exact (gives_stop h).elim

theorem planned_of_variants {enumName : String} : ∀ {vs : List IndexedVariant} {shapes : List Shape}
    {variants : List (String × Option String × Option Shape)}, (variantsPlan enumName vs).Gives shapes variants →
    ∀ v ∈ vs, ∀ f ∈ v.format.contents, Planned shapes f
  | _ :: _, _, _, h, v, hv, f, hf => by
    obtain ⟨front, payload, back, variants, h1, h2, rfl, rfl⟩ := gives_variantsPlan_cons.1 h
    rcases List.mem_cons.1 hv with rfl | hv
    · exact (planned_of_variant h1 f hf).mono (List.subset_append_left ..)
    · exact (planned_of_variants h2 v hv f hf).mono (List.subset_append_right ..)

theorem planned_of_body {name : String} {c : Container} {shapes : List Shape} {s : Shape}
    (h : (c.bodyPlan name).Gives shapes s) : ∀ f ∈ c.contents, Planned shapes f := by
  cases c with
  | unitStruct => exact fun _ h => nomatch h
  | newTypeStruct content => exact planned_of_structPlan h
  | tupleStruct contents =>
    simp only [Container.bodyPlan] at h
    split at h
    · exact (gives_stop h).elim
    · have hs := planned_of_structPlan h
      rwa [entryNames_map_snd] at hs
  | struct fields =>
    simp only [Container.bodyPlan] at h
    split at h
    · exact (gives_stop h).elim
    · exact planned_of_structPlan h
  | enum vs =>
    intro f hf
    obtain ⟨v, hv, hf⟩ := List.mem_flatMap.1 hf
    rcases gives_enumPlan h with ⟨hu, -, -⟩ | ⟨-, inner, variants, hvs, -, rfl, -⟩
    · have hunit := List.all_eq_true.1 hu v hv
      generalize v.format = vf at hunit hf
      cases vf with
      | unit => exact nomatch hf
      | _ => cases hunit
    · exact (planned_of_variants hvs v hv f hf).mono
        (List.Subset.trans (List.subset_append_left ..) (List.subset_append_left ..))

/-- Shapes that have all that the containers register have all that the plan of a format that occurs does. -/
theorem planned_of_occurs {shapes : List Shape} (h : ∀ name c, (name, c) ∈ r → ∃ inner s,
    (c.bodyPlan name).Gives inner s ∧ inner ⊆ shapes) {f : Format} (ho : r.Occurs f) : Planned shapes f := by
  induction ho with
  | content hc hf =>
    obtain ⟨inner, s, hg, hsub⟩ := h _ _ hc
    exact (planned_of_body hg _ hf).mono hsub
  | option _ ih =>
    obtain ⟨_, _, hg, hsub⟩ := ih
    obtain ⟨inner, value, hc, rfl, -⟩ := gives_option.1 hg
    exact ⟨inner, value, hc, fun x hx => hsub (List.mem_append_left _ (List.mem_append_right _ hx))⟩
  | sequence _ ih =>
    obtain ⟨_, _, hg, hsub⟩ := ih
    obtain ⟨inner, element, hc, rfl, -⟩ := gives_sequence.1 hg
    exact ⟨inner, element, hc, fun x hx => hsub (List.mem_append_left _ (List.mem_append_right _ hx))⟩
  | mapKey _ ih =>
    obtain ⟨_, _, hg, hsub⟩ := ih
    obtain ⟨ks, k, vs, v, hk, -, rfl, -⟩ := gives_map.1 hg
    exact ⟨ks, k, hk, fun x hx => hsub (by simp [hx])⟩
  | mapValue _ ih =>
    obtain ⟨_, _, hg, hsub⟩ := ih
    obtain ⟨ks, k, vs, v, -, hv, rfl, -⟩ := gives_map.1 hg
    exact ⟨vs, v, hv, fun x hx => hsub (by simp [hx])⟩
  | tuple _ hf ih =>
    obtain ⟨_, _, hg, hsub⟩ := ih
    obtain ⟨-, inner, parts, hc, rfl, -⟩ := gives_tuple.1 hg
    exact (planned_of_plans hc _ hf).mono (List.Subset.trans (List.subset_append_left ..) hsub)
  | array _ ih =>
    obtain ⟨_, _, hg, hsub⟩ := ih
    obtain ⟨-, inner, element, hc, rfl, -⟩ := gives_array.1 hg
    exact ⟨inner, element, hc, List.Subset.trans (List.subset_append_left ..) hsub⟩

end SolidityWire
