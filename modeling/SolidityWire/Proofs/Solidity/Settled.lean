/-
Lowering the same thing again. What a format or a container is lowered to does not depend on the table; and once it
has been lowered, everything that it needs is there, so that lowering it again at any later time gives the same shape,
registers nothing and reports nothing but the name of the container.
-/
import SolidityWire.Proofs.Solidity.Registrar

namespace SolidityWire

/-! ## Steps whose shapes are there -/

namespace Table

variable {t t' : Table} {steps : List Step}

/-- The shapes that the steps register are there. -/
def Holds (t : Table) (steps : List Step) : Prop :=
  ∀ s ∈ steps.filterMap Step.shape?, s.isReference = false → s ∈ t.shapes

/-- What has been registered is there. -/
theorem holds_of_stopped (h : (t.takeAll steps).stopped = none) : (t.takeAll steps).table.Holds steps :=
  fun s hs hsolid => (mem_takeAll h s).2 (Or.inr ⟨hsolid, hs⟩)

theorem Holds.extend (h : t.Holds steps) (ht : t.shapes <+: t'.shapes) : t'.Holds steps :=
  fun s hs hsolid => ht.subset (h s hs hsolid)

/-- A shape that is there is not registered again, and so is no reference. -/
theorem registerNew_of_mem {s : Shape} (h : s.isReference = false → s ∈ t.shapes) : t.registerNew s = ([], .ok t) := by
  unfold registerNew
  cases hs : s.isReference with
  | true => rw [insert_of_reference hs, Bool.true_or, if_pos rfl]
  | false =>
    have hget : t.get? s.key = some s := get?_eq_some_iff.2 ⟨h hs, rfl⟩
    rw [insert_of_get? hs hget, if_pos rfl, contains, hget]
    rfl

/-- Registering what is there leaves the table as it is and reports nothing. -/
theorem take_of_holds {step : Step} {rest : List Step} (hstep : step.Registers) (h : t.Holds (step :: rest)) :
    t.take step = ([], .ok t) := by
  have hnew : ∀ s, step.shape? = some s → t.registerNew s = ([], .ok t) := fun s hs =>
    registerNew_of_mem (h s (Step.mem_filterMap_cons.2 (Or.inl hs)))
  cases step with
  | enter _ => exact hstep.elim
  | register s => exact hnew s rfl
  | registerEntries pair =>
    have hpair : t.contains pair.key = true := by
      rw [contains_iff]
      exact List.mem_map_of_mem (h pair (Step.mem_filterMap_cons.2 (Or.inl rfl)) hstep.1)
    rw [take, hnew pair rfl]
    exact congrArg (·, Except.ok t) (if_pos hpair)

theorem takeAll_of_holds (t : Table) : ∀ {steps : List Step}, (∀ step ∈ steps, step.Registers) → t.Holds steps →
    t.takeAll steps = ⟨t, [], none⟩
  | [], _, _ => rfl
  | step :: rest, hall, h => by
    have hrest := takeAll_of_holds t (fun step hstep => hall step (List.mem_cons_of_mem _ hstep)) fun s hs =>
      h s (Step.mem_filterMap_cons.2 (Or.inr hs))
    rw [takeAll, take_of_holds (hall step List.mem_cons_self) h]
    simp only [hrest, List.nil_append]

end Table

namespace Solidity

/-! ## Requests to lower -/

/-- Whether the request is to lower a format or a container. -/
def Request.isLowering : Request → Bool
  | lowerFormat _ | lowerContainer .. => true
  | _ => false

/-- What is reported of a request to lower before anything is registered: the name of a container. -/
def Request.announced : Request → List Notice
  | lowerContainer name _ => [.entering name]
  | _ => []

namespace Registrar

variable {r : Registrar} {q : Request} {a : Reply}

/-- A plan is carried out if none of its steps is refused and it leads to a shape. -/
theorem carry_reply_eq_ok {p : Plan Shape} : (r.carry p).reply = .ok a ↔
    (r.table.takeAll p.steps).stopped = none ∧ ∃ s, p.result = .ok s ∧ a = .shape s := by
  unfold carry Table.carryOut
  rw [mapError_eq_ok, map_eq_ok]
  cases (r.table.takeAll p.steps).stopped <;> simp [eq_comm]

/-- A plan for which everything is there leads to its shape and changes nothing. -/
theorem carry_of_holds {p : Plan Shape} {s : Shape} (hp : ∀ step ∈ p.steps, step.Registers) (hs : p.result = .ok s)
    (h : r.table.Holds p.steps) : r.carry p = ⟨.ok (.shape s), [], r⟩ := by
  unfold carry Table.carryOut
  rw [Table.takeAll_of_holds r.table hp h, hs]
  rfl

/-- To lower is to carry out a plan that does not depend on the table, behind the announcement. -/
theorem exists_plan (hq : q.isLowering = true) : ∃ p : Plan Shape, (∀ step ∈ p.steps, step.Registers) ∧
    ∀ r : Registrar, r.answer q = { r.carry p with notices := q.announced ++ (r.carry p).notices } := by
  cases q with
  | lowerFormat f => exact ⟨f.plan, (registers_format f).steps, fun _ => rfl⟩
  | lowerContainer name c => exact ⟨c.bodyPlan name, (registers_container name c).steps, fun _ => rfl⟩
  | _ => cases hq

/-- What is lowered is a shape, and the same one on every table on which it is lowered at all. After it has been
lowered, and after any further requests, granted or refused, it is lowered again to that shape; the table stays as it
is, and nothing is reported but the name of a container. -/
theorem lowered_again (hq : q.isLowering = true) (h : (r.answer q).reply = .ok a) :
    (∃ s, a = .shape s) ∧ (∀ (r' : Registrar) (a' : Reply), (r'.answer q).reply = .ok a' → a' = a) ∧
      ∀ more : List Request, ((r.answer q).after.run more).answer q =
        ⟨.ok a, q.announced, (r.answer q).after.run more⟩ := by
  obtain ⟨p, hp, hanswer⟩ := exists_plan hq
  rw [hanswer] at h
  obtain ⟨hrun, s, hs, rfl⟩ := carry_reply_eq_ok.1 h
  refine ⟨⟨s, rfl⟩, fun r' a' h' => ?_, fun more => ?_⟩
  · rw [hanswer] at h'
    obtain ⟨-, s', hs', rfl⟩ := carry_reply_eq_ok.1 h'
    cases hs.symm.trans hs'
    rfl
  · have hafter : (r.answer q).after.table = (r.table.takeAll p.steps).table := congrArg (·.after.table) (hanswer r)
    have hholds : ((r.answer q).after.run more).table.Holds p.steps :=
      Table.Holds.extend (hafter ▸ Table.holds_of_stopped hrun) (run_extends _ more)
    rw [hanswer, carry_of_holds hp hs hholds, List.append_nil]

/-- A map is lowered with the warning about its entries, and after a refusal and another registration again without
one. -/
theorem lowered_again_map :
    let q := Request.lowerFormat (.map (.primitive .string) (.typeName "P"))
    let later := (({} : Registrar).answer q).after.run [.lowerFormat .float32, .insert (.simpleEnum "P" ["A"])]
    Notice.unorderedEntries "key_values_string_P" ∈ (({} : Registrar).answer q).notices ∧
      later.answer q = ⟨.ok (.shape (.sequence (entryStruct (.primitive .string) (.reference "P")))), [], later⟩ := by
  have hfirst : (({} : Registrar).answer (.lowerFormat (.map (.primitive .string) (.typeName "P")))).reply =
      .ok (.shape (.sequence (entryStruct (.primitive .string) (.reference "P")))) := rfl
  exact ⟨by decide, (lowered_again rfl hfirst).2.2 _⟩

end Registrar

end Solidity

end SolidityWire
