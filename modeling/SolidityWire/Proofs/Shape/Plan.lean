/-
Plans and the tables they are carried out on: a plan that is carried out to its end leaves, of what was
not there before, exactly the shapes it registers, references left out. It is carried out to its end
exactly if it has one and no two of the shapes have the same key.
-/
import Mathlib.Data.List.Nodup
import SolidityWire.Proofs.Except
import SolidityWire.Shape.Plan

namespace SolidityWire

/-! ## Tables -/

namespace Table

/-- A key tells the shape that is registered under it. -/
theorem get?_eq_some_iff {t : Table} {key : String} {s : Shape} : t.get? key = some s ↔ s ∈ t.shapes ∧ s.key = key := by
  refine ⟨mem_of_get?, ?_⟩
  rintro ⟨hs, rfl⟩
  cases h : t.get? s.key with
  | none => exact absurd (List.mem_map_of_mem hs) (get?_eq_none_iff.1 h)
  | some s' =>
    obtain ⟨hs', hk⟩ := mem_of_get? h
    rw [List.inj_on_of_nodup_map t.keys_nodup hs' hs hk]

theorem mem_keys_iff {t : Table} {key : String} : key ∈ t.keys ↔ ∃ s, t.get? key = some s := by
  rw [← Option.isSome_iff_exists, ← Option.ne_none_iff_isSome, ne_eq, get?_eq_none_iff, Decidable.not_not]

theorem contains_iff {t : Table} {key : String} : t.contains key = true ↔ key ∈ t.keys := by
  rw [contains, Option.isSome_iff_exists, mem_keys_iff]

theorem mem_insert {t t' : Table} {s : Shape} (h : t.insert s = .ok t') (x : Shape) :
    x ∈ t'.shapes ↔ x ∈ t.shapes ∨ s.isReference = false ∧ x = s := by
  unfold insert at h
  split at h
  · rename_i solid
    split at h
    · cases h
      rw [push, List.mem_append, List.mem_singleton]
      exact or_congr_right ⟨fun e => ⟨solid, e⟩, And.right⟩
    · rename_i other found
      split at h
      · rename_i he
        cases h
        refine ⟨Or.inl, ?_⟩
        rintro (hx | ⟨-, rfl⟩)
        · exact hx
        · exact he ▸ (mem_of_get? found).1
      · cases h
  · rename_i hr
    cases h
    exact ⟨Or.inl, fun hx => hx.resolve_right fun hs => hr hs.1⟩

/-- A shape is refused only for another one under its key. -/
theorem insert_eq_error {t : Table} {s : Shape} {e : Unsupported} (h : t.insert s = .error e) :
    e = .clashingKey s.key ∧ s.isReference = false ∧ ∃ other ∈ t.shapes, other.key = s.key ∧ other ≠ s := by
  unfold insert at h
  split at h
  · rename_i solid
    split at h
    · cases h
    · rename_i other found
      obtain ⟨hmem, hkey⟩ := mem_of_get? found
      split at h
      · cases h
      · rename_i hne
        cases h
        exact ⟨rfl, solid, other, hmem, hkey, hne⟩
  · cases h

end Table

/-! ## Steps -/

/-- The shape that a step registers. -/
def Step.shape? : Step → Option Shape
  | .enter _ => none
  | .register s => some s
  | .registerEntries pair => some pair

theorem Step.mem_filterMap_cons {step : Step} {rest : List Step} {x : Shape} :
    x ∈ (step :: rest).filterMap Step.shape? ↔ step.shape? = some x ∨ x ∈ rest.filterMap Step.shape? := by
  simp [List.mem_filterMap]

namespace Table

theorem mem_take {t t' : Table} {step : Step} (h : (t.take step).2 = .ok t') (x : Shape) :
    x ∈ t'.shapes ↔ x ∈ t.shapes ∨ x.isReference = false ∧ step.shape? = some x := by
  have registers : ∀ s, t.insert s = .ok t' →
      (x ∈ t'.shapes ↔ x ∈ t.shapes ∨ x.isReference = false ∧ some s = some x) := fun s hs => by
    rw [mem_insert hs]
    refine or_congr_right ⟨?_, ?_⟩
    · rintro ⟨hr, rfl⟩; exact ⟨hr, rfl⟩
    · rintro ⟨hr, hx⟩; cases hx; exact ⟨hr, rfl⟩
  cases step with
  | enter _ => cases h; exact ⟨Or.inl, fun hx => hx.resolve_right fun hs => nomatch hs.2⟩
  | register s => exact registers s h
  | registerEntries pair => exact registers pair h

/-- A run to the end leaves what was there and what its steps register. -/
theorem mem_takeAll : ∀ {steps : List Step} {t : Table}, (t.takeAll steps).stopped = none → ∀ x,
    x ∈ (t.takeAll steps).table.shapes ↔
      x ∈ t.shapes ∨ x.isReference = false ∧ x ∈ steps.filterMap Step.shape?
  | [], t, _, x => by simp [takeAll]
  | step :: rest, t, h, x => by
    unfold takeAll at h ⊢
    split at h
    · rename_i notices t' ht
      rw [mem_takeAll h x, mem_take (by rw [ht]), Step.mem_filterMap_cons, and_or_left, or_assoc]
    · cases h

/-- A step is refused only for another shape under the key of the one that it registers. -/
theorem take_eq_error {t : Table} {step : Step} {e : Unsupported} (h : (t.take step).2 = .error e) :
    ∃ s, step.shape? = some s ∧ e = .clashingKey s.key ∧ s.isReference = false ∧
      ∃ other ∈ t.shapes, other.key = s.key ∧ other ≠ s := by
  cases step with
  | enter _ => cases h
  | register s => exact ⟨s, rfl, insert_eq_error h⟩
  | registerEntries pair => exact ⟨pair, rfl, insert_eq_error h⟩

/-- A run stops only at a key that is taken. -/
theorem takeAll_stopped_eq_some : ∀ {steps : List Step} {t : Table} {e : Unsupported},
    (t.takeAll steps).stopped = some e → ∃ key, e = .clashingKey key
  | step :: rest, t, e, h => by
    unfold takeAll at h
    split at h
    · exact takeAll_stopped_eq_some h
    · rename_i he
      cases h
      obtain ⟨s, -, rfl, -⟩ := take_eq_error (congrArg Prod.snd he)
      exact ⟨s.key, rfl⟩

end Table

/-- No two of the shapes have the same key. -/
def Shape.Keyed (P : Shape → Prop) : Prop :=
  ∀ s s', P s → P s' → s.key = s'.key → s = s'

theorem Shape.Keyed.mono {P Q : Shape → Prop} (h : Keyed P) (hq : ∀ s, Q s → P s) : Keyed Q :=
  fun s s' hs hs' hk => h s s' (hq s hs) (hq s' hs') hk

namespace Table

theorem keyed (t : Table) : Shape.Keyed (· ∈ t.shapes) := fun _ _ hs hs' hk =>
  List.inj_on_of_nodup_map t.keys_nodup hs hs' hk

/-- A run gets to its end exactly if no two of what is there and what its steps register have the same
key. -/
theorem takeAll_stopped_eq_none : ∀ {steps : List Step} {t : Table}, (t.takeAll steps).stopped = none ↔
    Shape.Keyed fun x => x ∈ t.shapes ∨ x.isReference = false ∧ x ∈ steps.filterMap Step.shape?
  | steps, t => by
    constructor
    · -- what is there in the end is a table
      intro h s s' hs hs' hk
      exact (t.takeAll steps).table.keyed s s' ((mem_takeAll h s).2 hs) ((mem_takeAll h s').2 hs') hk
    · intro h
      match steps with
      | [] => rfl
      | step :: rest =>
        unfold takeAll
        split
        · rename_i notices t' ht
          refine takeAll_stopped_eq_none.2 (h.mono fun x hx => ?_)
          rwa [Step.mem_filterMap_cons, and_or_left, ← or_assoc, ← mem_take (by rw [ht] : (t.take step).2 = .ok t')]
        · rename_i notices e ht
          -- the step is refused for two shapes with one key
          obtain ⟨s, hs, -, hr, other, hmem, hkey, hne⟩ := take_eq_error (congrArg Prod.snd ht)
          refine absurd (h other s (Or.inl hmem) (Or.inr ⟨hr, ?_⟩) hkey) hne
          rw [List.mem_filterMap]
          exact ⟨step, List.mem_cons_self, hs⟩

end Table

/-! ## Plans -/

namespace Plan

variable {α β : Type}

/-- The plan registers the shapes and leads to the result. -/
structure Gives (p : Plan α) (shapes : List Shape) (a : α) : Prop where
  steps : p.steps.filterMap Step.shape? = shapes
  result : p.result = .ok a

theorem gives_of_result {p : Plan α} {a : α} (h : p.result = .ok a) : ∃ shapes, p.Gives shapes a :=
  ⟨_, rfl, h⟩

theorem gives_pure {a b : α} {shapes : List Shape} : (pure a : Plan α).Gives shapes b ↔ shapes = [] ∧ b = a := by
  constructor
  · rintro ⟨rfl, h⟩; exact ⟨rfl, (Except.ok.inj h).symm⟩
  · rintro ⟨rfl, rfl⟩; exact ⟨rfl, rfl⟩

theorem gives_stop {e : Unsupported} {shapes : List Shape} {a : α} : ¬(stop e : Plan α).Gives shapes a :=
  fun h => nomatch h.result

theorem gives_register {s s' : Shape} {shapes : List Shape} : (register s).Gives shapes s' ↔ shapes = [s] ∧ s' = s := by
  constructor
  · rintro ⟨rfl, h⟩; exact ⟨rfl, (Except.ok.inj h).symm⟩
  · rintro ⟨rfl, rfl⟩; exact ⟨rfl, rfl⟩

theorem gives_step {st : Step} {shapes : List Shape} {u : Unit} :
    (step st).Gives shapes u ↔ shapes = st.shape?.toList := by
  have : (step st).steps.filterMap Step.shape? = st.shape?.toList := by
    unfold step; cases h : st.shape? <;> simp [h]
  exact ⟨fun h => h.steps.symm.trans this, fun h => ⟨this.trans h.symm, rfl⟩⟩

theorem gives_bind {p : Plan α} {f : α → Plan β} {shapes : List Shape} {b : β} :
    (p >>= f).Gives shapes b ↔
      ∃ a front back, p.Gives front a ∧ (f a).Gives back b ∧ shapes = front ++ back := by
  change (p.andThen f).Gives shapes b ↔ _
  unfold andThen
  constructor
  · rintro ⟨hs, hr⟩
    split at hr
    · cases hr
    rename_i a ha
    rw [ha] at hs
    exact ⟨a, _, _, ⟨rfl, ha⟩, ⟨rfl, hr⟩, by rw [← hs, List.filterMap_append]⟩
  · rintro ⟨a, front, back, ⟨rfl, ha⟩, ⟨rfl, hb⟩, rfl⟩
    rw [ha]
    exact ⟨by rw [List.filterMap_append], hb⟩

@[simp] theorem pure_result (a : α) : (pure a : Plan α).result = .ok a := rfl

@[simp] theorem stop_result (e : Unsupported) : (stop e : Plan α).result = .error e := rfl

@[simp] theorem step_result (st : Step) : (step st).result = .ok () := rfl

@[simp] theorem register_result (s : Shape) : (register s).result = .ok s := rfl

@[simp] theorem bind_result (p : Plan α) (f : α → Plan β) : (p >>= f).result = p.result >>= fun a => (f a).result := by
  change (p.andThen f).result = _
  unfold andThen
  cases p.result <;> rfl

end Plan

/-- A plan that is carried out on the empty table fills it with the shapes that it registers. -/
theorem Table.mem_carryOut_empty {α : Type} {p : Plan α} {a : α} (h : (empty.carryOut p).2.2 = .ok a) :
    ∃ shapes, p.Gives shapes a ∧ ∀ x, x ∈ (empty.carryOut p).1.shapes ↔ x.isReference = false ∧ x ∈ shapes := by
  simp only [carryOut] at h ⊢
  split at h
  · cases h
  · rename_i hrun
    obtain ⟨shapes, hg⟩ := Plan.gives_of_result h
    refine ⟨shapes, hg, fun x => ?_⟩
    rw [mem_takeAll hrun x, hg.steps]
    exact ⟨fun hx => hx.resolve_left (fun hx => nomatch hx), Or.inr⟩

/-- A plan is carried out on the empty table exactly if no two of the shapes that it registers have the
same key. -/
theorem Table.carryOut_empty_eq_ok {α : Type} {p : Plan α} {shapes : List Shape} {a : α} (h : p.Gives shapes a) :
    (empty.carryOut p).2.2 = .ok a ↔ Shape.Keyed fun x => x.isReference = false ∧ x ∈ shapes := by
  have hrun : (empty.takeAll p.steps).stopped = none ↔ _ := takeAll_stopped_eq_none
  simp only [h.steps, empty, List.not_mem_nil, false_or] at hrun
  rw [← hrun]
  simp only [carryOut]
  split
  · rename_i e he
    exact ⟨fun hx => (nomatch hx), fun hx => nomatch he.symm.trans hx⟩
  · rename_i he
    exact ⟨fun _ => he, fun _ => h.result⟩

/-- A plan is not carried out because a key is taken or because the plan stops. -/
theorem Table.carryOut_eq_error {α : Type} {t : Table} {p : Plan α} {e : Unsupported}
    (h : (t.carryOut p).2.2 = .error e) : (∃ key, e = .clashingKey key) ∨ p.result = .error e := by
  simp only [carryOut] at h
  split at h
  · rename_i he
    cases h
    exact Or.inl (takeAll_stopped_eq_some he)
  · exact Or.inr h

end SolidityWire
