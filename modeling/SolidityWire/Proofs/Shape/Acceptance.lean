/-
Which registries are lowered: those whose formats and containers are of kinds that have shapes, whose
field names are distinct, whose needed shapes have distinct keys, all dependencies among them and no
cycle, and whose array sizes can be written into a key. The failure of any other tells what is wrong.
-/
import SolidityWire.Proofs.Shape.Needs
import SolidityWire.Proofs.Shape.OfRegistry

namespace SolidityWire

open Plan
open Solidity (safeName)

/-! ## What is asked of a registry -/

namespace Registry

/-- All formats and containers are of kinds that have shapes. -/
def Expressible (r : Registry) : Prop :=
  (∀ f, r.Occurs f → f.isExpressible = true) ∧ ∀ name c, (name, c) ∈ r → c.isExpressible = true

/-- All fields have distinct names. -/
def Distinct (r : Registry) : Prop :=
  ∀ name c, (name, c) ∈ r → c.Distinct

/-- All sizes of arrays can be written. -/
def Writable (r : Registry) : Prop :=
  ∀ f, r.Occurs f → f.isWritable = true

/-- A needed shape under the first key depends on the second key. -/
def DependsOn (r : Registry) (a b : String) : Prop :=
  ∃ s, r.Needs s ∧ s.key = a ∧ b ∈ s.dependencies

/-- All that needed shapes depend on is needed. -/
def Closed (r : Registry) : Prop :=
  ∀ a b, r.DependsOn a b → ∃ s, r.Needs s ∧ s.key = b

/-- No key depends on itself. -/
def Acyclic (r : Registry) : Prop :=
  ∀ key, ¬Relation.TransGen r.DependsOn key key

end Registry

variable {r : Registry}

/-! ## Bounds -/

/-- If a plan stops at a bound, then at the digits of an array's size. -/
def Plan.StopsAtSize (r : Registry) {α : Type} (p : Plan α) : Prop :=
  ∀ l, p.result = .error (.beyond l) → l = .digits ∧ ¬r.Writable

section Bounds

variable {α β : Type}

theorem stopsAtSize_of_ok {p : Plan α} {a : α} (h : p.result = .ok a) : p.StopsAtSize r := fun l hl => by
  rw [h] at hl
  cases hl

theorem stopsAtSize_register (s : Shape) : (register s).StopsAtSize r :=
  stopsAtSize_of_ok rfl

theorem stopsAtSize_stop {e : Unsupported} (h : ∀ l, e ≠ .beyond l) : (stop e : Plan α).StopsAtSize r := fun l hl =>
  absurd (Except.error.inj hl) (h l)

theorem Plan.StopsAtSize.bind {p : Plan α} {f : α → Plan β} (hp : p.StopsAtSize r) (hf : ∀ a, (f a).StopsAtSize r) :
    (p >>= f).StopsAtSize r := by
  intro l hl
  rw [bind_result, bind_eq_error] at hl
  rcases hl with hl | ⟨a, -, hl⟩
  · exact hp l hl
  · exact hf a l hl

theorem stopsAtSize_unless {b : Bool} {e : Unsupported} {p : Plan α} (h : ∀ l, e ≠ .beyond l) (hp : p.StopsAtSize r) :
    (if b then stop e else p : Plan α).StopsAtSize r := by
  cases b with
  | false => exact hp
  | true => exact stopsAtSize_stop h

end Bounds

mutual

theorem stopsAtSize_format : ∀ f : Format, r.Occurs f → f.plan.StopsAtSize r
  | .primitive p, _ => stopsAtSize_register _
  | .float32, _ => stopsAtSize_stop fun _ h => nomatch h
  | .float64, _ => stopsAtSize_stop fun _ h => nomatch h
  | .variable _, _ => stopsAtSize_stop fun _ h => nomatch h
  | .typeName name, _ => stopsAtSize_of_ok rfl
  | .option content, ho => (stopsAtSize_register _).bind fun _ =>
      (stopsAtSize_format content ho.option).bind fun _ => stopsAtSize_register _
  | .sequence content, ho => (stopsAtSize_register _).bind fun _ =>
      (stopsAtSize_format content ho.sequence).bind fun _ => stopsAtSize_register _
  | .map key value, ho => (stopsAtSize_register _).bind fun _ => (stopsAtSize_format key ho.mapKey).bind fun _ =>
      (stopsAtSize_format value ho.mapValue).bind fun _ => (stopsAtSize_of_ok rfl).bind fun _ => stopsAtSize_register _
  | .tuple [], _ => stopsAtSize_stop fun _ h => nomatch h
  | .tuple (content :: contents), ho => (stopsAtSize_format content (ho.tuple List.mem_cons_self)).bind fun _ =>
      (stopsAtSize_plans contents fun f hf => ho.tuple (List.mem_cons_of_mem _ hf)).bind fun _ => stopsAtSize_register _
  | .array content size, ho => by
    refine (stopsAtSize_format content ho.array).bind fun _ => ?_
    split
    · rename_i hsize
      -- the size is one that cannot be written
      intro l hl
      cases hl
      refine ⟨rfl, fun hw => ?_⟩
      simpa [Format.isWritable, hsize] using hw _ ho
    · exact stopsAtSize_register _

theorem stopsAtSize_plans : ∀ fs : List Format, (∀ f ∈ fs, r.Occurs f) → (Format.plans fs).StopsAtSize r
  | [], _ => stopsAtSize_of_ok rfl
  | f :: fs, ho => (stopsAtSize_format f (ho f List.mem_cons_self)).bind fun _ =>
      (stopsAtSize_plans fs fun g hg => ho g (List.mem_cons_of_mem _ hg)).bind fun _ => stopsAtSize_of_ok rfl

end

theorem stopsAtSize_fieldsPlan : ∀ fields : List (String × Format), (∀ f ∈ fields.map Prod.snd, r.Occurs f) →
    (fieldsPlan fields).StopsAtSize r
  | [], _ => stopsAtSize_of_ok rfl
  | (_, f) :: rest, ho => (stopsAtSize_format f (ho f List.mem_cons_self)).bind fun _ =>
      (stopsAtSize_fieldsPlan rest fun g hg => ho g (List.mem_cons_of_mem _ hg)).bind fun _ => stopsAtSize_of_ok rfl

theorem stopsAtSize_structPlan (name : String) {fields : List (String × Format)}
    (ho : ∀ f ∈ fields.map Prod.snd, r.Occurs f) : (structPlan name fields).StopsAtSize r := by
  refine (stopsAtSize_fieldsPlan fields ho).bind fun _ => ?_
  split
  · exact stopsAtSize_register _
  · exact stopsAtSize_stop fun _ h => nomatch h

theorem stopsAtSize_variant (enumName variant : String) {vf : VariantFormat} (ho : ∀ f ∈ vf.contents, r.Occurs f) :
    (vf.plan enumName variant).StopsAtSize r := by
  cases vf with
  | unit => exact stopsAtSize_of_ok rfl
  | newType content =>
    exact (stopsAtSize_format content (ho content List.mem_cons_self)).bind fun _ => stopsAtSize_of_ok rfl
  | tuple contents =>
    refine stopsAtSize_unless (fun _ h => nomatch h) ((stopsAtSize_structPlan _ ?_).bind fun _ => stopsAtSize_of_ok rfl)
    rwa [entryNames_map_snd]
  | struct fields =>
    exact stopsAtSize_unless (fun _ h => nomatch h) ((stopsAtSize_structPlan _ ho).bind fun _ => stopsAtSize_of_ok rfl)
  | «variable» _ => exact stopsAtSize_stop fun _ h => nomatch h

theorem stopsAtSize_variants (enumName : String) : ∀ vs : List IndexedVariant,
    (∀ v ∈ vs, ∀ f ∈ v.format.contents, r.Occurs f) → (variantsPlan enumName vs).StopsAtSize r
  | [], _ => stopsAtSize_of_ok rfl
  | v :: vs, ho => (stopsAtSize_variant _ _ (ho v List.mem_cons_self)).bind fun _ =>
      (stopsAtSize_variants enumName vs fun w hw => ho w (List.mem_cons_of_mem _ hw)).bind fun _ => stopsAtSize_of_ok rfl

theorem stopsAtSize_body {name : String} {c : Container} (hc : (name, c) ∈ r) : (c.bodyPlan name).StopsAtSize r := by
  have ho : ∀ f ∈ c.contents, r.Occurs f := fun f hf => .content hc hf
  cases c with
  | unitStruct => exact stopsAtSize_stop fun _ h => nomatch h
  | newTypeStruct content => exact stopsAtSize_structPlan name ho
  | tupleStruct contents =>
    refine stopsAtSize_unless (fun _ h => nomatch h) (stopsAtSize_structPlan name ?_)
    rwa [entryNames_map_snd]
  | struct fields => exact stopsAtSize_unless (fun _ h => nomatch h) (stopsAtSize_structPlan name ho)
  | enum vs =>
    refine stopsAtSize_unless (fun _ h => nomatch h) ?_
    split
    · exact stopsAtSize_register _
    · refine (stopsAtSize_variants name vs fun v hv f hf => ho f (List.mem_flatMap.2 ⟨v, hv, hf⟩)).bind fun _ => ?_
      split
      · exact (stopsAtSize_register _).bind fun _ => stopsAtSize_register _
      · exact stopsAtSize_stop fun _ h => nomatch h

theorem stopsAtSize_registry : ∀ {cs : Registry}, cs ⊆ r → (Registry.plan cs).StopsAtSize r
  | [], _ => stopsAtSize_of_ok rfl
  | (_, _) :: _, hr => ((stopsAtSize_of_ok rfl).bind fun _ => stopsAtSize_body (hr List.mem_cons_self)).bind fun _ =>
      stopsAtSize_registry fun _ hp => hr (List.mem_cons_of_mem _ hp)

/-! ## Plans of registries -/

theorem needed_of_registry : ∀ {cs : Registry} {shapes : List Shape}, (Registry.plan cs).Gives shapes () → cs ⊆ r →
    ∀ x ∈ shapes, r.Needs x
  | [], _, h, _, x, hx => by
    obtain ⟨rfl, -⟩ := gives_pure.1 h
    cases hx
  | (name, c) :: rest, _, h, hr, x, hx => by
    obtain ⟨_, _, back, h1, h2, rfl⟩ := gives_bind.1 h
    obtain ⟨_, _, front, h3, h4, rfl⟩ := gives_bind.1 h1
    rw [gives_step] at h3
    subst h3
    rcases List.mem_append.1 hx with hx | hx
    · exact needed_of_body (hr List.mem_cons_self) h4 x hx
    · exact needed_of_registry h2 (fun p hp => hr (List.mem_cons_of_mem _ hp)) x hx

theorem exists_gives_registry (h : ∀ f, r.Occurs f → f.isExpressible = true ∧ f.isWritable = true)
    (he : ∀ name c, (name, c) ∈ r → c.isExpressible = true) (hd : r.Distinct) : ∀ {cs : Registry}, cs ⊆ r →
    ∃ shapes, (Registry.plan cs).Gives shapes ()
  | [], _ => ⟨_, gives_pure.2 ⟨rfl, rfl⟩⟩
  | (name, c) :: rest, hr => by
    have hc : (name, c) ∈ r := hr List.mem_cons_self
    obtain ⟨front, s, hg⟩ := exists_gives_body h hc (he name c hc) (hd name c hc)
    obtain ⟨back, hg'⟩ := exists_gives_registry h he hd fun p hp => hr (List.mem_cons_of_mem _ hp)
    exact ⟨_, gives_bind.2 ⟨s, _, back, gives_bind.2 ⟨(), _, front, gives_step.2 rfl, hg, rfl⟩, hg', rfl⟩⟩

/-- The plan of a registry comes to its end exactly if its formats and containers are as they should be. -/
theorem exists_gives_plan_iff : (∃ shapes, r.plan.Gives shapes ()) ↔ r.Expressible ∧ r.Distinct ∧ r.Writable := by
  constructor
  · rintro ⟨shapes, h⟩
    obtain ⟨-, hbody⟩ := lowered_registry h (List.Subset.refl r)
    have formats : ∀ f, r.Occurs f → f.isExpressible = true ∧ f.isWritable = true := fun f ho => by
      obtain ⟨inner, s, hg, -⟩ := planned_of_occurs hbody ho
      exact (needs_of_gives hg).2
    have containers : ∀ name c, (name, c) ∈ r → c.isExpressible = true ∧ c.Distinct := fun name c hc => by
      obtain ⟨inner, s, hg, -⟩ := hbody name c hc
      exact (body_of_gives hg).2
    exact ⟨⟨fun f ho => (formats f ho).1, fun name c hc => (containers name c hc).1⟩,
      fun name c hc => (containers name c hc).2, fun f ho => (formats f ho).2⟩
  · rintro ⟨he, hd, hw⟩
    exact exists_gives_registry (fun f ho => ⟨he.1 f ho, hw f ho⟩) he.2 hd (List.Subset.refl r)

/-- The plan of a registry registers the shapes that are needed, none of which is a reference. -/
theorem mem_iff_needs {shapes : List Shape} (h : r.plan.Gives shapes ()) (x : Shape) :
    (x ∈ shapes ↔ r.Needs x) ∧ (x ∈ shapes → x.isReference = false) := by
  obtain ⟨hl, hbody⟩ := lowered_registry h (List.Subset.refl r)
  refine ⟨⟨needed_of_registry h (List.Subset.refl r) x, ?_⟩, fun hx => (hl.proper x hx).solid⟩
  rintro (⟨f, ho, hx⟩ | ⟨name, c, hc, hx⟩)
  · obtain ⟨inner, s, hg, hsub⟩ := planned_of_occurs hbody ho
    exact hsub ((needs_of_gives hg).1 hx)
  · obtain ⟨inner, s, hg, hsub⟩ := hbody name c hc
    exact hsub ((body_of_gives hg).1 hx)

/-! ## Registration -/

namespace Registry

/-- What is registered is what is needed. -/
theorem mem_of_register {t : Table} (h : r.register.result = .ok t) (x : Shape) : x ∈ t.shapes ↔ r.Needs x := by
  simp only [register] at h
  split at h
  · rename_i hrun
    obtain ⟨shapes, hg, hmem⟩ := Table.mem_carryOut_empty hrun
    obtain ⟨hneeds, hsolid⟩ := mem_iff_needs hg x
    rw [← Except.ok.inj h, hmem, ← hneeds]
    exact ⟨And.right, fun hx => ⟨hsolid hx, hx⟩⟩
  · cases h

/-- The shapes of a registry are registered exactly if its formats and containers are as they should be and
no two needed shapes have the same key. -/
theorem register_eq_ok_iff : (∃ t, r.register.result = .ok t) ↔
    r.Expressible ∧ r.Distinct ∧ Shape.Keyed r.Needs ∧ r.Writable := by
  constructor
  · rintro ⟨t, h⟩
    have hkeyed : Shape.Keyed r.Needs := t.keyed.mono fun s hs => (mem_of_register h s).2 hs
    simp only [register] at h
    split at h
    · rename_i hrun
      obtain ⟨shapes, hg, -⟩ := Table.mem_carryOut_empty hrun
      obtain ⟨he, hd, hw⟩ := exists_gives_plan_iff.1 ⟨shapes, hg⟩
      exact ⟨he, hd, hkeyed, hw⟩
    · cases h
  · rintro ⟨he, hd, hkeyed, hw⟩
    obtain ⟨shapes, hg⟩ := exists_gives_plan_iff.2 ⟨he, hd, hw⟩
    have hrun : (Table.empty.carryOut r.plan).2.2 = .ok () :=
      (Table.carryOut_empty_eq_ok hg).2 (hkeyed.mono fun x hx => (mem_iff_needs hg x).1.1 hx.2)
    refine ⟨(Table.empty.carryOut r.plan).1, ?_⟩
    simp only [register]
    rw [hrun]

/-- A registry is not registered because of a construct without a shape, or because of a size. -/
theorem register_eq_error {e : Error} (h : r.register.result = .error e) :
    (∃ u, e = .unsupported u) ∨ e = .beyond .digits ∧ ¬r.Writable := by
  simp only [register] at h
  split at h
  · cases h
  · rename_i u hrun
    cases h
    cases u with
    | beyond l =>
      rcases Table.carryOut_eq_error hrun with ⟨key, hkey⟩ | hplan
      · cases hkey
      · obtain ⟨rfl, hw⟩ := stopsAtSize_registry (List.Subset.refl r) l hplan
        exact Or.inr ⟨rfl, hw⟩
    | _ => exact Or.inl ⟨_, rfl⟩

/-! ## Dependencies -/

theorem depends_eq {t : Table} (h : r.register.result = .ok t) : t.Depends = r.DependsOn := by
  funext a b
  unfold Table.Depends DependsOn
  simp only [Table.get?_eq_some_iff, mem_of_register h, and_assoc]

theorem mem_keys_of_register {t : Table} (h : r.register.result = .ok t) {key : String} :
    key ∈ t.keys ↔ ∃ s, r.Needs s ∧ s.key = key := by
  unfold Table.keys
  simp only [List.mem_map, mem_of_register h]

/-- The dependencies in the table are as those of the needed shapes. -/
theorem grounded_iff {t : Table} (h : r.register.result = .ok t) : t.Grounded ↔ r.Closed ∧ r.Acyclic := by
  have hdep := depends_eq h
  constructor
  · intro hg
    refine ⟨fun a b hd => ?_, fun key hkey => hg.acyclic key ?_⟩
    · rw [← hdep] at hd
      exact (mem_keys_of_register h).1 (hg.closed hd)
    · rwa [hdep]
  · rintro ⟨hc, ha⟩
    refine ⟨fun {a b} hd => ?_, fun key hkey => ha key ?_⟩
    · rw [hdep] at hd
      exact (mem_keys_of_register h).2 (hc a b hd)
    · rwa [← hdep]

/-! ## Failures -/

theorem lower_of_register_error {e : Error} (h : r.register.result = .error e) : r.lower.result = .error e := by
  unfold lower
  rw [Reported.bind_result, h]
  rfl

/-- Of a table that is registered, the search for cycles decides. -/
theorem lower_of_register {t : Table} (h : r.register.result = .ok t) : r.lower.result = match t.findCycle with
    | .ok none => .ok t
    | .ok (some _) => .error .cyclic
    | .error name => .error (.unresolved name) := by
  unfold lower
  rw [Reported.bind_result, h, ok_bind, Reported.bind_result]
  unfold Table.checkDependencies
  cases t.findCycle with
  | error _ => rfl
  | ok found => cases found <;> rfl

/-- What stands in the table of a registry is what is needed. -/
theorem mem_of_lower {t : Table} (h : r.lower.result = .ok t) (s : Shape) : s ∈ t.shapes ↔ r.Needs s := by
  obtain ⟨t', hr, h⟩ := Reported.bind_result_eq_ok.1 h
  obtain ⟨_, -, h⟩ := Reported.bind_result_eq_ok.1 h
  cases h
  exact mem_of_register hr s

/-- A table that is registered and not grounded is refused for a cycle or for a name that is missed. -/
theorem lower_of_not_grounded {t : Table} (h : r.register.result = .ok t) (hg : ¬t.Grounded) :
    r.lower.result = .error .cyclic ∧ ¬r.Acyclic ∨
    ∃ a name, r.lower.result = .error (.unresolved name) ∧ r.DependsOn a name ∧ ∀ s, r.Needs s → s.key ≠ name := by
  rw [lower_of_register h]
  cases hc : t.findCycle with
  | error name =>
    obtain ⟨hname, a, hd⟩ := Table.depends_of_findCycle hc
    rw [mem_keys_of_register h] at hname
    rw [depends_eq h] at hd
    exact Or.inr ⟨a, name, rfl, hd, fun s hs hk => hname ⟨s, hs, hk⟩⟩
  | ok found =>
    cases found with
    | none => exact absurd (Table.findCycle_eq_none.1 hc) hg
    | some key =>
      have hcycle := Table.transGen_of_findCycle hc
      rw [depends_eq h] at hcycle
      exact Or.inl ⟨rfl, fun ha => ha key hcycle⟩

theorem lower_eq_ok_iff : (∃ t, r.lower.result = .ok t) ↔
    r.Expressible ∧ r.Distinct ∧ Shape.Keyed r.Needs ∧ r.Closed ∧ r.Acyclic ∧ r.Writable := by
  constructor
  · rintro ⟨t, ht⟩
    cases hr : r.register.result with
    | error e => exact nomatch ht.symm.trans (lower_of_register_error hr)
    | ok t' =>
      have hg : t'.Grounded := by
        by_contra hg
        rcases lower_of_not_grounded hr hg with ⟨hlower, -⟩ | ⟨_, _, hlower, -⟩
        · exact nomatch ht.symm.trans hlower
        · exact nomatch ht.symm.trans hlower
      obtain ⟨he, hd, hk, hw⟩ := register_eq_ok_iff.1 ⟨t', hr⟩
      obtain ⟨hc, ha⟩ := (grounded_iff hr).1 hg
      exact ⟨he, hd, hk, hc, ha, hw⟩
  · rintro ⟨he, hd, hk, hc, ha, hw⟩
    obtain ⟨t, hr⟩ := register_eq_ok_iff.2 ⟨he, hd, hk, hw⟩
    refine ⟨t, ?_⟩
    rw [lower_of_register hr, Table.findCycle_eq_none.2 ((grounded_iff hr).2 ⟨hc, ha⟩)]

/-- Where no shapes can be registered, lowering fails as registration does. -/
theorem lower_of_not_registered (h : ¬∃ t, r.register.result = .ok t) :
    (∃ u, r.lower.result = .error (.unsupported u)) ∨ r.lower.result = .error (.beyond .digits) ∧ ¬r.Writable := by
  cases hr : r.register.result with
  | ok t => exact absurd ⟨t, hr⟩ h
  | error e =>
    rw [lower_of_register_error hr]
    rcases register_eq_error hr with ⟨u, rfl⟩ | ⟨rfl, hw⟩
    · exact Or.inl ⟨u, rfl⟩
    · exact Or.inr ⟨rfl, hw⟩

/-! ## Registries of one container -/

/-- A struct with a number and a number that may be absent. -/
def pair : Registry :=
  [("P", .struct [("x", .primitive (.integer false .w8)), ("y", .option (.primitive (.integer false .w8)))])]

/-- A container without content. -/
def hollow : Registry :=
  [("U", .unitStruct)]

/-- A container of one value. -/
def single (content : Format) : Registry :=
  [("A", .newTypeStruct content)]

section Single

variable {content : Format}

theorem contents_single {name : String} {c : Container} (hc : (name, c) ∈ single content) :
    name = "A" ∧ c = .newTypeStruct content := by
  cases List.mem_singleton.1 hc
  exact ⟨rfl, rfl⟩

/-- What the formats and the one container of such a registry need. -/
theorem needs_single {s : Shape} : (single content).Needs s ↔
    (∃ f, (single content).Occurs f ∧ s ∈ f.needs) ∨
      ∃ value, content.shape? = some value ∧ s = .struct "A" [("value", value)] := by
  have hsafe : safeName "value" = "value" := rfl
  refine or_congr_right ⟨?_, ?_⟩
  · rintro ⟨name, c, hc, hs⟩
    obtain ⟨rfl, rfl⟩ := contents_single hc
    cases hv : content.shape? with
    | none => simp [Container.needs, Container.shape?, structShape?, Format.shapes?, hv] at hs
    | some value =>
      refine ⟨value, rfl, ?_⟩
      simpa [Container.needs, Container.shape?, structShape?, Format.shapes?, fieldShapes, hv, hsafe] using hs
  · rintro ⟨value, hv, rfl⟩
    refine ⟨"A", _, List.mem_singleton_self _, ?_⟩
    simp [Container.needs, Container.shape?, structShape?, Format.shapes?, fieldShapes, hv, hsafe]

theorem expressible_single (h : ∀ f, (single content).Occurs f → f.isExpressible = true) :
    (single content).Expressible := by
  refine ⟨h, fun name c hc => ?_⟩
  obtain ⟨-, rfl⟩ := contents_single hc
  rfl

theorem distinct_single : (single content).Distinct := by
  intro name c hc
  obtain ⟨-, rfl⟩ := contents_single hc
  trivial

/-- A number of which each dependency has a lower one tells that there is no cycle. -/
theorem acyclic_of_lt {rank : String → Nat} (h : ∀ a b, r.DependsOn a b → rank b < rank a) : r.Acyclic := by
  have lower : ∀ a b, Relation.TransGen r.DependsOn a b → rank b < rank a := fun a b hab => by
    induction hab with
    | single hd => exact h _ _ hd
    | tail _ hd ih => exact (h _ _ hd).trans ih
  exact fun key hkey => lt_irrefl _ (lower key key hkey)

/-- In a container of a reference only the reference occurs. -/
theorem occurs_loop {name : String} {f : Format} (h : (single (.typeName name)).Occurs f) : f = .typeName name := by
  induction h with
  | content hc hf =>
    obtain ⟨-, rfl⟩ := contents_single hc
    exact List.mem_singleton.1 hf
  | option _ ih | sequence _ ih | mapKey _ ih | mapValue _ ih | tuple _ _ ih | array _ ih => cases ih

theorem needs_loop {name : String} {s : Shape} :
    (single (.typeName name)).Needs s ↔ s = .struct "A" [("value", .reference name)] := by
  rw [needs_single]
  constructor
  · rintro (⟨f, ho, hs⟩ | ⟨value, hv, rfl⟩)
    · cases occurs_loop ho
      cases hs
    · cases hv
      rfl
  · rintro rfl
    exact Or.inr ⟨_, rfl, rfl⟩

variable {size : Nat}

/-- In a container of an array of numbers the array and the number occur. -/
theorem occurs_array {f : Format} (h : (single (.array (.primitive (.integer false .w8)) size)).Occurs f) :
    f = .array (.primitive (.integer false .w8)) size ∨ f = .primitive (.integer false .w8) := by
  induction h with
  | content hc hf =>
    obtain ⟨-, rfl⟩ := contents_single hc
    exact Or.inl (List.mem_singleton.1 hf)
  | array _ ih =>
    rcases ih with h | h
    · cases h
      exact Or.inr rfl
    · cases h
  | option _ ih | sequence _ ih | mapKey _ ih | mapValue _ ih | tuple _ _ ih => rcases ih with h | h <;> cases h

/-- The number, the array and the container need a shape each. -/
theorem needs_array {s : Shape} (h : (single (.array (.primitive (.integer false .w8)) size)).Needs s) :
    s = .primitive (.integer false .w8) ∨ s = .array (.primitive (.integer false .w8)) size ∨
    s = .struct "A" [("value", .array (.primitive (.integer false .w8)) size)] := by
  rcases needs_single.1 h with ⟨f, ho, hs⟩ | ⟨value, hv, rfl⟩
  · rcases occurs_array ho with rfl | rfl
    · exact Or.inr (Or.inl (List.mem_singleton.1 hs))
    · exact Or.inl (List.mem_singleton.1 hs)
  · cases hv
    exact Or.inr (Or.inr rfl)

/-- The place of a needed shape, by the first character of its key. -/
def placeOf (key : String) : Nat :=
  if key.toList.head? = some 'u' then 0 else if key.toList.head? = some 't' then 1 else 2

theorem placeOf_number : placeOf (Shape.primitive (.integer false .w8)).key = 0 := by
  rfl

theorem placeOf_array {element : Shape} {n : Int} : placeOf (Shape.array element n).key = 1 := by
  have hword : "tuplearray".toList = 't' :: "uplearray".toList := by decide
  unfold placeOf
  simp [Shape.key, String.toList_append, hword]

theorem placeOf_struct {fields : List (String × Shape)} : placeOf (Shape.struct "A" fields).key = 2 := by
  have hplace : placeOf "A" = 2 := rfl
  exact hplace

/-- Whatever the size of the array, the shapes have distinct keys, depend on each other only and have no
cycle. -/
theorem grounded_array : Shape.Keyed (single (.array (.primitive (.integer false .w8)) size)).Needs ∧
    (single (.array (.primitive (.integer false .w8)) size)).Closed ∧
    (single (.array (.primitive (.integer false .w8)) size)).Acyclic := by
  have ho : (single (.array (.primitive (.integer false .w8)) size)).Occurs
      (.array (.primitive (.integer false .w8)) size) :=
    .content (List.mem_singleton_self _) (List.mem_singleton_self _)
  have depends : ∀ a b, (single (.array (.primitive (.integer false .w8)) size)).DependsOn a b →
      placeOf b < placeOf a ∧ ∃ s, (single (.array (.primitive (.integer false .w8)) size)).Needs s ∧ s.key = b := by
    rintro a b ⟨s, hs, rfl, hb⟩
    rcases needs_array hs with rfl | rfl | rfl
    · cases hb
    · cases List.mem_singleton.1 hb
      refine ⟨?_, _, ho.array.needs (List.mem_singleton_self _), rfl⟩
      rw [placeOf_number, placeOf_array]
      exact Nat.zero_lt_one
    · cases List.mem_singleton.1 hb
      refine ⟨?_, _, ho.needs (List.mem_singleton_self _), rfl⟩
      rw [placeOf_array, placeOf_struct]
      exact Nat.one_lt_two
  refine ⟨fun s s' hs hs' hk => ?_, fun a b hd => (depends a b hd).2, acyclic_of_lt fun a b hd => (depends a b hd).1⟩
  have hplace := congrArg placeOf hk
  rcases needs_array hs with rfl | rfl | rfl <;> rcases needs_array hs' with rfl | rfl | rfl <;>
    first
    | rfl
    | simp [placeOf_number, placeOf_array, placeOf_struct] at hplace

end Single

/-! ## Acceptance -/

/-- Lowering gives a table exactly if all formats and containers are of kinds that have shapes, fields have
distinct names, needed shapes have distinct keys, depend on needed shapes only and not on themselves, and
sizes can be written. If sizes can be written and one of the first three fails, the failure is that of a
construct; if only the next two fail, it is that of a cycle or of a name that is missed. -/
theorem lower_acceptance (r : Registry) :
    ((∃ t, r.lower.result = .ok t) ↔
      r.Expressible ∧ r.Distinct ∧ Shape.Keyed r.Needs ∧ r.Closed ∧ r.Acyclic ∧ r.Writable) ∧
    (r.Writable → ¬(r.Expressible ∧ r.Distinct ∧ Shape.Keyed r.Needs) →
      ∃ u, r.lower.result = .error (.unsupported u)) ∧
    (r.Writable → r.Expressible ∧ r.Distinct ∧ Shape.Keyed r.Needs → ¬(r.Closed ∧ r.Acyclic) →
      r.lower.result = .error .cyclic ∧ ¬r.Acyclic ∨
      ∃ a name, r.lower.result = .error (.unresolved name) ∧ r.DependsOn a name ∧ ∀ s, r.Needs s → s.key ≠ name) ∧
    (¬r.Writable → r.lower.result = .error (.beyond .digits) ∨ ∃ u, r.lower.result = .error (.unsupported u)) := by
  refine ⟨lower_eq_ok_iff, fun hw h => ?misfit, fun hw ⟨he, hd, hk⟩ h => ?ungrounded, fun hw => ?unwritable⟩
  case misfit =>
    have hnot : ¬∃ t, r.register.result = .ok t := fun hr => by
      obtain ⟨he, hd, hk, -⟩ := register_eq_ok_iff.1 hr
      exact h ⟨he, hd, hk⟩
    exact (lower_of_not_registered hnot).resolve_right fun h => h.2 hw
  case ungrounded =>
    obtain ⟨t, hr⟩ := register_eq_ok_iff.2 ⟨he, hd, hk, hw⟩
    exact lower_of_not_grounded hr fun hg => h ((grounded_iff hr).1 hg)
  case unwritable =>
    have hnot : ¬∃ t, r.register.result = .ok t := fun hr => hw (register_eq_ok_iff.1 hr).2.2.2
    exact (lower_of_not_registered hnot).symm.imp_left And.left

/-- The first registry is accepted, the second has a construct without a shape, and the third a cycle. -/
theorem lower_acceptance_pair : (pair.Expressible ∧ pair.Distinct ∧ Shape.Keyed pair.Needs ∧ pair.Closed ∧
      pair.Acyclic ∧ pair.Writable) ∧
    (∃ u, hollow.lower.result = .error (.unsupported u)) ∧
    (single (.typeName "A")).lower.result = .error .cyclic := by
  refine ⟨?accepted, ?misfit, ?cyclic⟩
  case accepted =>
    exact (lower_acceptance pair).1.1 ⟨_, rfl⟩
  case misfit =>
    have occurs : ∀ f, ¬hollow.Occurs f := fun f ho => by
      induction ho with
      | content hc hf =>
        cases List.mem_singleton.1 hc
        cases hf
      | _ => assumption
    refine (lower_acceptance hollow).2.1 (fun f ho => absurd ho (occurs f)) fun h => ?_
    exact nomatch h.1.2 "U" .unitStruct (List.mem_singleton_self _)
  case cyclic =>
    have hd : (single (.typeName "A")).DependsOn "A" "A" := ⟨_, needs_loop.2 rfl, rfl, List.mem_singleton_self _⟩
    have hkeyed : Shape.Keyed (single (.typeName "A")).Needs := fun s s' hs hs' _ => by
      rw [needs_loop.1 hs, needs_loop.1 hs']
    have hcyclic : ¬(single (.typeName "A")).Acyclic := fun h => h "A" (.single hd)
    have hmissing : ∀ a name, (single (.typeName "A")).DependsOn a name → name = "A" := by
      rintro a name ⟨s, hs, -, hname⟩
      cases needs_loop.1 hs
      exact List.mem_singleton.1 hname
    rcases (lower_acceptance (single (.typeName "A"))).2.2.1 (fun f ho => by cases occurs_loop ho; rfl)
      ⟨expressible_single fun f ho => by cases occurs_loop ho; rfl, distinct_single, hkeyed⟩ (fun h => hcyclic h.2)
      with ⟨h, -⟩ | ⟨a, name, -, hname, hs⟩
    · exact h
    · cases hmissing a name hname
      exact absurd rfl (hs _ (needs_loop.2 rfl))

/-- An array of so many items that their number cannot be written has no key, although all else is as it
should be. -/
theorem lower_array_long : (single (.array (.primitive (.integer false .w8)) (10 ^ Text.mostDigits))).Expressible ∧
    (single (.array (.primitive (.integer false .w8)) (10 ^ Text.mostDigits))).Distinct ∧
    Shape.Keyed (single (.array (.primitive (.integer false .w8)) (10 ^ Text.mostDigits))).Needs ∧
    (single (.array (.primitive (.integer false .w8)) (10 ^ Text.mostDigits))).Closed ∧
    (single (.array (.primitive (.integer false .w8)) (10 ^ Text.mostDigits))).Acyclic ∧
    ¬∃ t, (single (.array (.primitive (.integer false .w8)) (10 ^ Text.mostDigits))).lower.result = .ok t := by
  obtain ⟨hkeyed, hclosed, hacyclic⟩ := @grounded_array (10 ^ Text.mostDigits)
  refine ⟨expressible_single fun f ho => ?_, distinct_single, hkeyed, hclosed, hacyclic, fun h => ?_⟩
  · rcases occurs_array ho with rfl | rfl <;> rfl
  · have hw := (lower_eq_ok_iff.1 h).2.2.2.2.2
    have hsize := hw _ (.content (List.mem_singleton_self _) (List.mem_singleton_self _))
    have hlong : Text.isTooLong ((10 ^ Text.mostDigits : Nat) : Int) = true := decide_eq_true (Int.natAbs_natCast _).ge
    rw [Format.isWritable, hlong] at hsize
    cases hsize

end Registry

end SolidityWire
