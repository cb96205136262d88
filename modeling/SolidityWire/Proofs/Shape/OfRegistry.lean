/-
The table of a registry: it is what lowering registers, with all dependencies among its keys and without
cycles. Its keys are names if those of the registry are, the key of a child leads back to the child or to
the container that is referred to, and the plan of every format that occurs is carried out in it.
-/
import SolidityWire.Proofs.Except
import SolidityWire.Proofs.Shape.Cycles
import SolidityWire.Proofs.Shape.Lowering
import SolidityWire.Shape.OfRegistry

namespace SolidityWire

open Plan

/-- What the table of a registry is. -/
structure Registry.Lowers (r : Registry) (t : Table) : Prop where
  grounded : t.Grounded
  lowered : Lowered r t.shapes
  body : ∀ name c, (name, c) ∈ r → ∃ inner s, (c.bodyPlan name).Gives inner s ∧ inner ⊆ t.shapes

@[simp] theorem Reported.bind_result {α β : Type} (x : Reported α) (f : α → Reported β) :
    (x >>= f).result = x.result >>= fun a => (f a).result := by
  change (x.andThen f).result = _
  unfold andThen
  cases x.result <;> rfl

theorem Reported.bind_result_eq_ok {α β : Type} {x : Reported α} {f : α → Reported β} {b : β} :
    (x >>= f).result = .ok b ↔ ∃ a, x.result = .ok a ∧ (f a).result = .ok b := by
  rw [bind_result, bind_eq_ok]

theorem Table.checkDependencies_eq_ok {t : Table} {u : Unit} (h : t.checkDependencies.result = .ok u) :
    t.findCycle = .ok none := by
  unfold checkDependencies at h
  split at h
  · cases h
  · cases h
  · assumption

/-- What is registered for a registry holds the children of each shape and what the container plans register. -/
theorem Registry.lowered_of_register {r : Registry} {t : Table} (h : r.register.result = .ok t) :
    Lowered r t.shapes ∧
      ∀ name c, (name, c) ∈ r → ∃ inner s, (c.bodyPlan name).Gives inner s ∧ inner ⊆ t.shapes := by
  have hrun : (Table.empty.carryOut r.plan).2.2 = .ok () ∧ (Table.empty.carryOut r.plan).1 = t := by
    simp only [register] at h
    split at h
    · rename_i he; exact ⟨he, Except.ok.inj h⟩
    · cases h
  obtain ⟨shapes, hg, hmem⟩ := Table.mem_carryOut_empty hrun.1
  obtain ⟨hl, hbody⟩ := lowered_registry hg (List.Subset.refl r)
  -- no reference is registered, so that the table has all that the plan registers
  have mem_iff : ∀ x, x ∈ t.shapes ↔ x ∈ shapes := fun x => by
    rw [← hrun.2, hmem]
    exact ⟨And.right, fun hx => ⟨(hl.proper x hx).solid, hx⟩⟩
  refine ⟨⟨fun s hs child hc => ?_, fun s hs => hl.proper s ((mem_iff s).1 hs)⟩, fun name c hc => ?_⟩
  · exact (hl.anchored s ((mem_iff s).1 hs) child hc).mono fun x hx => (mem_iff x).2 hx
  · obtain ⟨inner, s, hg', hsub⟩ := hbody name c hc
    exact ⟨inner, s, hg', fun x hx => (mem_iff x).2 (hsub hx)⟩

/-- A registry that is lowered has its table. -/
theorem Registry.lowers_of_lower {r : Registry} {t : Table} (h : r.lower.result = .ok t) : r.Lowers t := by
  obtain ⟨t', hreg, h⟩ := Reported.bind_result_eq_ok.1 h
  obtain ⟨_, hcheck, h⟩ := Reported.bind_result_eq_ok.1 h
  obtain ⟨_, -, h⟩ := Reported.bind_result_eq_ok.1 h
  cases h
  obtain ⟨hl, hbody⟩ := lowered_of_register hreg
  exact ⟨Table.findCycle_eq_none.1 (Table.checkDependencies_eq_ok hcheck), hl, hbody⟩

namespace Registry.Lowers

variable {r : Registry} {t : Table}

/-- The keys of the table are names if those of the registry are. -/
theorem isName_key (h : r.Lowers t) (hr : r.IsNamed) {key : String} (hk : key ∈ t.keys) : Text.IsName key := by
  induction hn : t.rank key using Nat.strongRecOn generalizing key with
  | ind n ih =>
    subst hn
    obtain ⟨s, hs, rfl⟩ := List.mem_map.1 hk
    refine (h.lowered.proper s hs).named hr fun child hc => ?_
    have hd := Table.depends_child hs hc
    exact ih _ (h.grounded.rank_lt hd) (h.grounded.closed hd) rfl

/-- The body of a container is registered under its name. -/
theorem get?_name (h : r.Lowers t) {name : String} {c : Container} (hc : (name, c) ∈ r) :
    ∃ inner s, (c.bodyPlan name).Gives inner s ∧ inner ⊆ t.shapes ∧ t.get? name = some s ∧ s.canBeNull = false := by
  obtain ⟨inner, s, hg, hsub⟩ := h.body name c hc
  obtain ⟨-, hs, hk, -, hn⟩ := lowered_body hg hc
  exact ⟨inner, s, hg, hsub, Table.get?_eq_some_iff.2 ⟨hsub hs, hk⟩, hn⟩

/-- The shape under the key of a child has the null value exactly if the child has. -/
theorem canBeNull_child (h : r.Lowers t) (hr : r.Declares) {s child f : Shape} (hs : s ∈ t.shapes)
    (hc : child ∈ s.children) (hf : t.get? child.key = some f) : f.canBeNull = child.canBeNull := by
  rcases h.lowered.anchored s hs child hc with ⟨name, rfl, ho⟩ | hmem
  · obtain ⟨c, hmem⟩ := hr name ho
    obtain ⟨_, s', -, -, hs', hn⟩ := h.get?_name hmem
    rw [Option.some.inj (hf.symm.trans hs'), hn]; rfl
  · rw [Option.some.inj (hf.symm.trans (Table.get?_eq_some_iff.2 ⟨hmem, rfl⟩))]

/-- What the plan of a format that occurs registers is in the table. -/
theorem planned (h : r.Lowers t) {f : Format} (ho : r.Occurs f) : Planned t.shapes f :=
  planned_of_occurs h.body ho

end Registry.Lowers

end SolidityWire
