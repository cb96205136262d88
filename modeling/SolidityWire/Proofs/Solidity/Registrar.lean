/-
A registrar over all of its requests, granted and refused. Registration only appends: an entry keeps its key, its
shape and its place. Questions add no entry. What is remembered of a reference is what its shape says, because the
shape under a name stays, and a name without a shape is not remembered; so no answer depends on what was asked
before it. The keys of all entries can be written, since a plan stops where one cannot.
-/
import SolidityWire.Proofs.Solidity.Declared
import SolidityWire.Solidity.Registrar

namespace SolidityWire

/-! ## Plans that only register -/

/-- The step registers a shape whose key can be written; what is registered as entries is no reference. -/
def Step.Registers : Step → Prop
  | enter _ => False
  | register s => s.hasLongKey = false
  | registerEntries pair => pair.isReference = false ∧ pair.hasLongKey = false

namespace Plan

variable {α β : Type}

/-- All steps of the plan register shapes whose keys can be written, and what it leads to is as it should be. -/
structure Registers (p : Plan α) (post : α → Prop) : Prop where
  steps : ∀ step ∈ p.steps, step.Registers
  result : ∀ a, p.result = .ok a → post a

variable {post : α → Prop} {post' : β → Prop}

theorem registers_pure {a : α} (h : post a) : (pure a : Plan α).Registers post where
  steps _ hs := nomatch hs
  result b hb := by cases hb; exact h

theorem registers_stop (e : Unsupported) : (stop e : Plan α).Registers post where
  steps _ hs := nomatch hs
  result _ hb := nomatch hb

theorem registers_register {s : Shape} (h : s.hasLongKey = false) :
    (register s).Registers fun s => s.hasLongKey = false where
  steps := List.forall_mem_singleton.2 h
  result x hx := by cases hx; exact h

theorem registers_entries (key value : Shape) :
    (step (.registerEntries (entryStruct key value))).Registers fun _ => True where
  steps := List.forall_mem_singleton.2 ⟨rfl, rfl⟩
  result _ _ := trivial

theorem Registers.bind {p : Plan α} {f : α → Plan β} (hp : p.Registers post)
    (hf : ∀ a, post a → (f a).Registers post') : (p >>= f).Registers post' := by
  change (p.andThen f).Registers post'
  unfold andThen
  split
  · exact ⟨hp.steps, fun _ hb => nomatch hb⟩
  · rename_i a ha
    have hrest := hf a (hp.result a ha)
    exact ⟨List.forall_mem_append.2 ⟨hp.steps, hrest.steps⟩, hrest.result⟩

theorem Registers.ite {P : Prop} [Decidable P] {p q : Plan α} (hp : P → p.Registers post)
    (hq : ¬P → q.Registers post) : (if P then p else q).Registers post := by
  split
  · exact hp ‹_›
  · exact hq ‹_›

end Plan

section Plans

open Plan

mutual

theorem registers_format : ∀ f : Format, f.plan.Registers fun s => s.hasLongKey = false
  | .primitive _ => registers_register rfl
  | .float32 | .float64 | .variable _ => registers_stop _
  | .typeName _ => registers_pure rfl
  | .option content =>
    (registers_register rfl).bind fun _ _ => (registers_format content).bind fun _ h => registers_register h
  | .sequence content =>
    (registers_register rfl).bind fun _ _ => (registers_format content).bind fun _ h => registers_register h
  | .map key value =>
    (registers_register rfl).bind fun _ _ => (registers_format key).bind fun _ _ =>
      (registers_format value).bind fun _ _ => (registers_entries _ _).bind fun _ _ => registers_register rfl
  | .tuple [] => registers_stop _
  | .tuple (content :: contents) =>
    (registers_format content).bind fun _ _ => (registers_formats contents).bind fun _ _ => registers_register rfl
  | .array content _ =>
    (registers_format content).bind fun _ h => .ite (fun _ => registers_stop _) fun hsize =>
      registers_register (Bool.or_eq_false_iff.2 ⟨Bool.eq_false_iff.2 hsize, h⟩)

theorem registers_formats : ∀ fs : List Format, (Format.plans fs).Registers fun _ => True
  | [] => registers_pure trivial
  | f :: fs => (registers_format f).bind fun _ _ => (registers_formats fs).bind fun _ _ => registers_pure trivial

end

theorem registers_fields : ∀ fields : List (String × Format), (fieldsPlan fields).Registers fun _ => True
  | [] => registers_pure trivial
  | (_, f) :: rest => (registers_format f).bind fun _ _ => (registers_fields rest).bind fun _ _ => registers_pure trivial

theorem registers_struct (name : String) (fields : List (String × Format)) :
    (structPlan name fields).Registers fun s => s.hasLongKey = false :=
  (registers_fields fields).bind fun _ _ => .ite (fun _ => registers_register rfl) fun _ => registers_stop _

theorem registers_variant (enumName variant : String) :
    ∀ vf : VariantFormat, (vf.plan enumName variant).Registers fun _ => True
  | .unit => registers_pure trivial
  | .newType content => (registers_format content).bind fun _ _ => registers_pure trivial
  | .tuple contents => .ite (fun _ => registers_stop _) fun _ =>
    (registers_struct _ (entryNames contents)).bind fun _ _ => registers_pure trivial
  | .struct fields => .ite (fun _ => registers_stop _) fun _ =>
    (registers_struct _ fields).bind fun _ _ => registers_pure trivial
  | .variable _ => registers_stop _

theorem registers_variants (enumName : String) :
    ∀ vs : List IndexedVariant, (variantsPlan enumName vs).Registers fun _ => True
  | [] => registers_pure trivial
  | v :: rest =>
    (registers_variant enumName v.name v.format).bind fun _ _ =>
      (registers_variants enumName rest).bind fun _ _ => registers_pure trivial

theorem registers_enum (name : String) (vs : List IndexedVariant) :
    (enumPlan name vs).Registers fun s => s.hasLongKey = false :=
  .ite (fun _ => registers_stop _) fun _ => .ite (fun _ => registers_register rfl) fun _ =>
    (registers_variants name vs).bind fun _ _ =>
      .ite (fun _ => (registers_register rfl).bind fun _ _ => registers_register rfl) fun _ => registers_stop _

theorem registers_container (name : String) :
    ∀ c : Container, (c.bodyPlan name).Registers fun s => s.hasLongKey = false
  | .unitStruct => registers_stop _
  | .newTypeStruct content => registers_struct name [("value", content)]
  | .tupleStruct contents => .ite (fun _ => registers_stop _) fun _ => registers_struct name (entryNames contents)
  | .struct fields => .ite (fun _ => registers_stop _) fun _ => registers_struct name fields
  | .enum variants => registers_enum name variants

end Plans

namespace Table

variable {t t' : Table} {s s' : Shape} {name missing : String}

/-! ## Registration appends -/

theorem insert_of_reference (h : s.isReference = true) : t.insert s = .ok t := by
  unfold insert
  rw [dif_neg (by simp [h])]

theorem insert_of_get? {other : Shape} (hs : s.isReference = false) (h : t.get? s.key = some other) :
    t.insert s = if other = s then .ok t else .error (.clashingKey s.key) := by
  unfold insert
  rw [dif_pos hs]
  split
  · rename_i hnone
    cases h.symm.trans hnone
  · rename_i found
    cases h.symm.trans found
    rfl

theorem insert_of_none (hs : s.isReference = false) (h : t.get? s.key = none) :
    ∃ t', t.insert s = .ok t' ∧ t'.shapes = t.shapes ++ [s] := by
  unfold insert
  rw [dif_pos hs]
  split
  · exact ⟨_, rfl, rfl⟩
  · rename_i found
    cases h.symm.trans found

theorem insert_extends (h : t.insert s = .ok t') : t.shapes <+: t'.shapes := by
  unfold insert at h
  split at h
  · split at h
    · cases h
      exact List.prefix_append ..
    · split at h
      · cases h
        exact List.prefix_rfl
      · cases h
  · cases h
    exact List.prefix_rfl

theorem take_extends {step : Step} (h : (t.take step).2 = .ok t') : t.shapes <+: t'.shapes := by
  cases step with
  | enter _ =>
    cases h
    exact List.prefix_rfl
  | register _ => exact insert_extends h
  | registerEntries _ => exact insert_extends h

/-- Steps append, also if one of them is refused. -/
theorem takeAll_extends : ∀ {steps : List Step} {t : Table}, t.shapes <+: (t.takeAll steps).table.shapes
  | [], _ => List.prefix_rfl
  | step :: rest, t => by
    unfold takeAll
    split
    · rename_i ht
      exact (take_extends (congrArg Prod.snd ht)).trans takeAll_extends
    · exact List.prefix_rfl

/-- What is there after some steps was there before or is registered by them. -/
theorem mem_of_mem_takeAll : ∀ {steps : List Step} {t : Table}, s ∈ (t.takeAll steps).table.shapes →
    s ∈ t.shapes ∨ s ∈ steps.filterMap Step.shape?
  | [], _, h => Or.inl h
  | step :: rest, t, h => by
    unfold takeAll at h
    rw [Step.mem_filterMap_cons]
    split at h
    · rename_i ht
      rcases mem_of_mem_takeAll h with h | h
      · exact ((mem_take (congrArg Prod.snd ht) s).1 h).imp_right fun h => Or.inl h.2
      · exact Or.inr (Or.inr h)
    · exact Or.inl h

theorem takeAll_register (t : Table) (s : Shape) : t.takeAll [.register s] = match t.insert s with
    | .ok t' => ⟨t', (t.registerNew s).1 ++ [], none⟩
    | .error u => ⟨t, (t.registerNew s).1, some u⟩ := by
  have htake : t.take (.register s) = ((t.registerNew s).1, t.insert s) := rfl
  unfold takeAll
  rw [htake]
  cases t.insert s <;> rfl

/-- What stands under a key stays. -/
theorem get?_of_extends (h : t.shapes <+: t'.shapes) (hs : t.get? name = some s) : t'.get? name = some s := by
  obtain ⟨hmem, hkey⟩ := get?_eq_some_iff.1 hs
  exact get?_eq_some_iff.2 ⟨h.subset hmem, hkey⟩

/-! ## References are followed -/

/-- Following references from the first shape ends at the second one. -/
inductive EndsAt (t : Table) : Shape → Shape → Prop
  | solid {s : Shape} (h : s.isReference = false) : EndsAt t s s
  | reference {name : String} {s s' : Shape} (h : t.get? name = some s) (hs : EndsAt t s s') :
    EndsAt t (.reference name) s'

/-- Following references from the shape comes to a name that has no shape. -/
inductive Dangles (t : Table) : Shape → String → Prop
  | missing {name : String} (h : t.get? name = none) : Dangles t (.reference name) name
  | reference {name missing : String} {s : Shape} (h : t.get? name = some s) (hs : Dangles t s missing) :
    Dangles t (.reference name) missing

theorem EndsAt.isReference_eq (h : t.EndsAt s s') : s'.isReference = false := by
  induction h with
  | solid h => exact h
  | reference _ _ ih => exact ih

/-- As no reference is registered, it takes at most one step to the end. -/
theorem resolve?_eq_some_iff : t.resolve? s = some s' ↔ t.EndsAt s s' := by
  constructor
  · intro h
    cases s with
    | reference name => exact .reference h (.solid (t.not_reference s' (mem_of_get? h).1))
    | _ =>
      cases h
      exact .solid rfl
  · intro h
    cases h with
    | solid h => exact Solidity.resolve?_of_solid h
    | @reference name found _ hfound hend =>
      -- what is registered is no reference, so that the end is there
      cases hend with
      | solid _ => exact hfound
      | reference _ _ => cases t.not_reference _ (mem_of_get? hfound).1

theorem dangles_iff : t.Dangles s missing ↔ t.resolve? s = none ∧ missing = s.key := by
  constructor
  · intro h
    cases h with
    | missing h => exact ⟨h, rfl⟩
    | reference hfound hs =>
      cases hs with
      | missing _ => cases t.not_reference _ (mem_of_get? hfound).1
      | reference _ _ => cases t.not_reference _ (mem_of_get? hfound).1
  · rintro ⟨h, rfl⟩
    cases s with
    | reference name => exact .missing h
    | _ => cases h

theorem endsAt_or_dangles (t : Table) (s : Shape) : (∃ s', t.EndsAt s s') ∨ ∃ missing, t.Dangles s missing := by
  cases h : t.resolve? s with
  | some s' => exact Or.inl ⟨s', resolve?_eq_some_iff.1 h⟩
  | none => exact Or.inr ⟨s.key, dangles_iff.2 ⟨h, rfl⟩⟩

/-- Values of a shape live where those of the shape do that it stands for. -/
theorem needsMemory?_eq (t : Table) (s : Shape) : t.needsMemory? s = (t.resolve? s).map Shape.livesInMemory := by
  unfold needsMemory?
  cases t.resolve? s with
  | none => rfl
  | some s' => cases s' <;> rfl

end Table

namespace Solidity

/-! ## Shapes without a place -/

section Places

variable {t : Table} {e : Error}

theorem placeOf_eq_error {s : Shape} : placeOf t s = .error e ↔ t.resolve? s = none ∧ e = .unresolved s.key := by
  unfold placeOf
  rw [Table.needsMemory?_eq]
  cases t.resolve? s with
  | some s' => cases hlives : s'.livesInMemory <;> simp [hlives]
  | none => simp [eq_comm]

/-- One of the shapes has no place, for the reason given, and those before it have theirs. -/
inductive Unplaced (t : Table) (e : Error) : List Shape → Prop
  | here {s : Shape} {rest : List Shape} (h : placeOf t s = .error e) : Unplaced t e (s :: rest)
  | later {s : Shape} {rest : List Shape} {place : Place} (h : placeOf t s = .ok place) (hrest : Unplaced t e rest) :
    Unplaced t e (s :: rest)

theorem decodeFields_of_unplaced : ∀ {fields : List (String × Shape)}, Unplaced t e (fields.map Prod.snd) →
    decodeFields t fields = .error e
  | (name, s) :: rest, h => by
    rw [decodeFields]
    cases h with
    | here h =>
      rw [h]
      rfl
    | later h hrest =>
      rw [h, ok_bind, decodeFields_of_unplaced hrest]
      rfl

theorem fieldPayloads_of_unplaced : ∀ {payloads : List (Nat × Option String × Shape)},
    Unplaced t e (payloads.map (·.2.2)) → fieldPayloads t payloads = .error e
  | (i, field, s) :: rest, h => by
    rw [fieldPayloads]
    cases h with
    | here h =>
      rw [h]
      rfl
    | later h hrest =>
      rw [h, ok_bind, fieldPayloads_of_unplaced hrest]
      rfl

theorem numberedPayloads_shapes : ∀ (start : Nat) (variants : List (String × Option String × Option Shape)),
    (numberedPayloads start variants).map (·.2.2) = (Shape.payloads variants).map Prod.snd
  | _, [] => rfl
  | start, (_, _, none) :: rest => numberedPayloads_shapes (start + 1) rest
  | start, (_, _, some s) :: rest => congrArg (s :: ·) (numberedPayloads_shapes (start + 1) rest)

/-- A shape has no declarations if one of its children has no place, for the reason that the first such child has
none. -/
theorem declarations_of_unplaced {s : Shape} (h : Unplaced t e s.children) : declarations t s = .error e := by
  have hmain : mainDeclarations t s = .error e := by
    cases s with
    | primitive _ | reference _ | simpleEnum _ _ => cases h
    | option _ | sequence _ | array _ _ =>
      cases h with
      | here h =>
        simp only [mainDeclarations, optionDeclarations, sequenceDeclarations, arrayDeclarations, h]
        rfl
      | later _ hrest => cases hrest
    | struct name fields =>
      cases fields with
      | nil => cases h
      | cons field rest =>
        -- the decoder has a local variable for each field, in order
        rw [mainDeclarations, structDeclarations, decodeFields_of_unplaced h]
        rfl
    | taggedEnum name variants =>
      -- payloads are numbered, which leaves their shapes and the order of these
      have hpayloads : Unplaced t e ((numberedPayloads 0 variants).map (·.2.2)) := by
        rw [numberedPayloads_shapes]
        exact h
      rw [mainDeclarations, taggedEnumDeclarations, fieldPayloads_of_unplaced hpayloads]
      rfl
  rw [declarations, hmain]
  rfl

end Places

namespace Registrar

/-! ## What is remembered -/

/-- What is remembered of a name is what the shape under it says. -/
def Recalls (r : Registrar) : Prop :=
  ∀ name known, (name, known) ∈ r.remembered → ∃ s, r.table.get? name = some s ∧ known = s.livesInMemory

/-- The second registrar has the table of the first one, and remembers further names as their shapes say. -/
inductive Learns (r : Registrar) : Registrar → Prop
  | nothing : Learns r r
  | more {r' : Registrar} {name : String} {s : Shape} (h : Learns r r') (hs : r.table.get? name = some s) :
    Learns r { r' with remembered := (name, s.livesInMemory) :: r'.remembered }

variable {r r' r'' : Registrar}

theorem Learns.table_eq (h : Learns r r') : r'.table = r.table := by
  induction h with
  | nothing => rfl
  | more _ _ ih => exact ih

theorem Learns.trans (h : Learns r r') (h' : Learns r' r'') : Learns r r'' := by
  induction h' with
  | nothing => exact h
  | more _ hs ih => exact ih.more (h.table_eq ▸ hs)

theorem Learns.recalls (h : Learns r r') (hr : r.Recalls) : r'.Recalls := by
  induction h with
  | nothing => exact hr
  | more h hs ih =>
    intro name known hmem
    rcases List.mem_cons.1 hmem with heq | hmem
    · cases heq
      exact ⟨_, h.table_eq ▸ hs, rfl⟩
    · exact ih name known hmem

theorem recalls_empty : ({} : Registrar).Recalls :=
  fun _ _ h => nomatch h

/-- What is remembered stays right while the table grows. -/
theorem Recalls.extend (hr : r.Recalls) {t : Table} (h : r.table.shapes <+: t.shapes) :
    ({ r with table := t } : Registrar).Recalls := by
  intro name known hmem
  obtain ⟨s, hs, hknown⟩ := hr name known hmem
  exact ⟨s, Table.get?_of_extends h hs, hknown⟩

/-! ## Questions -/

theorem find_eq_ok {name : String} {s : Shape} : r.find name = .ok s ↔ r.table.get? name = some s := by
  unfold find
  cases r.table.get? name <;> simp

theorem resolve_eq_ok {s s' : Shape} : r.resolve s = .ok s' ↔ r.table.resolve? s = some s' := by
  unfold resolve
  cases r.table.resolve? s <;> simp

theorem resolve_eq_error {s : Shape} {e : Error} :
    r.resolve s = .error e ↔ r.table.resolve? s = none ∧ e = .unresolved s.key := by
  unfold resolve
  cases r.table.resolve? s <;> simp [eq_comm]

/-- Whatever has been asked before, a shape lives where the shape that it stands for does. -/
theorem askMemory_eq (hr : r.Recalls) (s : Shape) : (r.askMemory s).1 = (r.resolve s).map Shape.livesInMemory := by
  cases s with
  | reference name =>
    unfold askMemory resolve Table.resolve?
    dsimp only
    split
    · -- what is remembered is what would be found out now
      rename_i known hlookup
      obtain ⟨front, back, hremembered, -⟩ := List.lookup_eq_some_iff.1 hlookup
      have hmem : (name, known) ∈ r.remembered := by
        rw [hremembered]
        exact List.mem_append_right _ List.mem_cons_self
      obtain ⟨s, hs, rfl⟩ := hr name known hmem
      rw [hs]
      rfl
    · unfold find
      cases r.table.get? name <;> rfl
  | _ => rfl

theorem askMemory_learns (r : Registrar) (s : Shape) : Learns r (r.askMemory s).2 := by
  unfold askMemory
  split
  · split
    · exact .nothing
    · split
      · rename_i hfound
        exact .more .nothing (find_eq_ok.1 hfound)
      · exact .nothing
  · exact .nothing

theorem askAll_learns : ∀ (r : Registrar) (shapes : List Shape), Learns r (r.askAll shapes).2
  | _, [] => .nothing
  | r, s :: rest => by
    have hstep := askMemory_learns r s
    unfold askAll
    split
    · rename_i hask
      rw [hask] at hstep
      exact hstep.trans (askAll_learns _ rest)
    · rename_i hask
      rw [hask] at hstep
      exact hstep

theorem askDeclarations_learns (r : Registrar) (s : Shape) : Learns r (r.askDeclarations s).2 := by
  have hall := askAll_learns r s.children
  unfold askDeclarations
  split
  · exact .nothing
  · split
    · rename_i hask
      rwa [hask] at hall
    · rename_i hask
      rwa [hask] at hall

/-- Several shapes are asked about up to the first one without a place. -/
theorem unplaced_of_askAll {e : Error} : ∀ {shapes : List Shape} {r r' : Registrar}, r.Recalls →
    r.askAll shapes = (.error e, r') → Unplaced r.table e shapes
  | [], _, _, _, h => nomatch h
  | s :: rest, r, r', hr, h => by
    have hanswer := askMemory_eq hr s
    have hstep := askMemory_learns r s
    unfold askAll at h
    split at h
    · rename_i known r1 hask
      rw [hask] at hanswer hstep
      obtain ⟨s', hs', -⟩ := map_eq_ok.1 hanswer.symm
      obtain ⟨place, hplace⟩ := exists_place (resolve_eq_ok.1 hs')
      have hrest : Unplaced r1.table e rest := unplaced_of_askAll (hstep.recalls hr) h
      exact .later hplace (hstep.table_eq ▸ hrest)
    · rename_i e' r1 hask
      cases h
      rw [hask] at hanswer
      exact .here (placeOf_eq_error.2 (resolve_eq_error.1 (map_eq_error.1 hanswer.symm)))

/-- The declarations of a shape are those that the table gives it, if all keys in them can be written. -/
theorem askDeclarations_eq (hr : r.Recalls) (s : Shape) : (r.askDeclarations s).1 =
    if (s :: s.children).any Shape.hasLongKey then .error (.beyond .digits) else Solidity.declarations r.table s := by
  have hall := askAll_learns r s.children
  unfold askDeclarations
  split
  · rfl
  · split
    · rename_i hask
      rw [hask] at hall
      rw [← hall.table_eq]
    · rename_i hask
      exact (declarations_of_unplaced (unplaced_of_askAll hr hask)).symm

/-! ## One request -/

theorem answer_learns {q : Request} (hq : q.isQuestion = true) : Learns r (r.answer q).after := by
  cases q with
  | insert _ | lowerFormat _ | lowerContainer _ _ => cases hq
  | get _ | contains _ | resolve _ | cycle => exact .nothing
  | needsMemory s | location s => exact askMemory_learns r s
  | declarations s => exact askDeclarations_learns r s

theorem insert_of_hasLongKey {s : Shape} (h : s.hasLongKey = true) : r.insert s = ⟨.error (.beyond .digits), [], r⟩ := by
  rw [insert, if_pos h]

theorem insert_of_writable {s : Shape} (h : s.hasLongKey = false) : r.insert s = r.carry (Plan.register s) := by
  rw [insert, if_neg (Bool.eq_false_iff.1 h)]

/-- To register is to carry out a plan whose shapes have keys that can be written, if anything is done at all. -/
theorem exists_steps {q : Request} (hq : q.isQuestion = false) : ∃ steps : List Step,
    (∀ s ∈ steps.filterMap Step.shape?, s.hasLongKey = false) ∧
      (r.answer q).after = { r with table := (r.table.takeAll steps).table } := by
  have hshapes : ∀ {steps : List Step}, (∀ step ∈ steps, step.Registers) →
      ∀ s ∈ steps.filterMap Step.shape?, s.hasLongKey = false := fun h s hs => by
    obtain ⟨step, hstep, hshape⟩ := List.mem_filterMap.1 hs
    have hregisters := h step hstep
    cases step with
    | enter _ => cases hshape
    | register _ => cases hshape; exact hregisters
    | registerEntries _ => cases hshape; exact hregisters.2
  cases q with
  | insert s =>
    cases hs : s.hasLongKey with
    | true => exact ⟨[], fun _ h => (nomatch h), congrArg Answered.after (insert_of_hasLongKey hs)⟩
    | false =>
      exact ⟨[.register s], hshapes (Plan.registers_register hs).steps, congrArg Answered.after (insert_of_writable hs)⟩
  | lowerFormat f => exact ⟨f.plan.steps, hshapes (registers_format f).steps, rfl⟩
  | lowerContainer name c =>
    -- the step before those of the content registers nothing
    refine ⟨.enter name :: (c.bodyPlan name).steps, ?_, rfl⟩
    rw [List.filterMap_cons_none rfl]
    exact hshapes (registers_container name c).steps
  | _ => cases hq

theorem answer_grows {q : Request} (hq : q.isQuestion = false) :
    ∃ t : Table, r.table.shapes <+: t.shapes ∧ (r.answer q).after = { r with table := t } := by
  obtain ⟨_, -, hafter⟩ := exists_steps (r := r) hq
  exact ⟨_, Table.takeAll_extends, hafter⟩

/-- A request appends to the table, also if it is refused. -/
theorem answer_extends (r : Registrar) (q : Request) : r.table.shapes <+: (r.answer q).after.table.shapes := by
  cases hq : q.isQuestion with
  | true =>
    rw [(answer_learns hq).table_eq]
  | false =>
    obtain ⟨t, ht, hafter⟩ := answer_grows (r := r) hq
    rw [hafter]
    exact ht

/-- What is remembered is right, and the keys of all entries can be written. -/
structure Regular (r : Registrar) : Prop where
  recalls : r.Recalls
  writable : ∀ s ∈ r.table.shapes, s.hasLongKey = false

theorem regular_empty : ({} : Registrar).Regular :=
  ⟨recalls_empty, fun _ h => nomatch h⟩

theorem Regular.answer (hr : r.Regular) (q : Request) : (r.answer q).after.Regular := by
  cases hq : q.isQuestion with
  | true =>
    have hlearns := answer_learns (r := r) hq
    exact ⟨hlearns.recalls hr.recalls, hlearns.table_eq ▸ hr.writable⟩
  | false =>
    -- nothing is learnt by registering, and what is remembered is of names whose shapes stay
    obtain ⟨steps, hsteps, hafter⟩ := exists_steps (r := r) hq
    rw [hafter]
    refine ⟨hr.recalls.extend Table.takeAll_extends, fun s hs => ?_⟩
    rcases Table.mem_of_mem_takeAll hs with hs | hs
    · exact hr.writable s hs
    · exact hsteps s hs

/-! ## Runs -/

theorem run_append (r : Registrar) (qs qs' : List Request) : r.run (qs ++ qs') = (r.run qs).run qs' := by
  induction qs generalizing r with
  | nil => rfl
  | cons q rest ih => exact ih _

theorem run_extends : ∀ (r : Registrar) (qs : List Request), r.table.shapes <+: (r.run qs).table.shapes
  | _, [] => List.prefix_rfl
  | r, q :: rest => (answer_extends r q).trans (run_extends _ rest)

theorem Regular.run : ∀ {qs : List Request} {r : Registrar}, r.Regular → (r.run qs).Regular
  | [], _, hr => hr
  | q :: _, _, hr => (hr.answer q).run

/-! ## Replies -/

/-- A shape whose key can be written is registered as the table takes it, and given back. -/
theorem answer_insert {s : Shape} (h : s.hasLongKey = false) :
    (r.answer (.insert s)).reply = (match r.table.insert s with
      | .ok _ => .ok (.shape s)
      | .error u => .error (.ofUnsupported u)) ∧
    (r.answer (.insert s)).after = match r.table.insert s with
      | .ok t => { r with table := t }
      | .error _ => r := by
  change (r.insert s).reply = _ ∧ (r.insert s).after = _
  rw [insert_of_writable h]
  unfold carry Table.carryOut
  rw [show (Plan.register s).steps = [.register s] from rfl, Table.takeAll_register]
  cases r.table.insert s <;> exact ⟨rfl, rfl⟩

/-- The reply tells of the shape at which following references ends, or that it comes to a name without a shape. One
of the two is always the case. -/
structure Follows (r : Registrar) (s : Shape) (reply : Except Error Reply) (tell : Shape → Reply) : Prop where
  ends : (∃ s', r.table.EndsAt s s' ∧ s'.isReference = false) ∨ ∃ missing, r.table.Dangles s missing
  found : ∀ s', r.table.EndsAt s s' → reply = .ok (tell s')
  missing : ∀ missing, r.table.Dangles s missing → reply = .error (.unresolved missing)

theorem follows_resolve (r : Registrar) (s : Shape) (tell : Shape → Reply) :
    r.Follows s ((r.resolve s).map tell) tell where
  ends := by
    rcases r.table.endsAt_or_dangles s with ⟨s', hs'⟩ | hmissing
    · exact Or.inl ⟨s', hs', hs'.isReference_eq⟩
    · exact Or.inr hmissing
  found s' hs' := by
    rw [resolve_eq_ok.2 (Table.resolve?_eq_some_iff.2 hs')]
    rfl
  missing name hname := by
    rw [resolve_eq_error.2 ⟨(Table.dangles_iff.1 hname).1, rfl⟩, (Table.dangles_iff.1 hname).2]
    rfl

theorem follows_askMemory (hr : r.Recalls) (s : Shape) (tell : Bool → Reply) :
    r.Follows s ((r.askMemory s).1.map tell) fun s' => tell s'.livesInMemory := by
  have hmap : (r.askMemory s).1.map tell = (r.resolve s).map fun s' => tell s'.livesInMemory := by
    rw [askMemory_eq hr]
    cases r.resolve s <;> rfl
  rw [hmap]
  exact follows_resolve r s _

/-- What a registrar replies, and what becomes of it. A reference is not registered; a shape is, once, and refused
if another one has its key, or if its key cannot be written. Questions change no entry, and are answered from the
table alone. -/
structure Behaves (r : Registrar) : Prop where
  appends : ∀ q, r.table.shapes <+: (r.answer q).after.table.shapes
  question : ∀ q, q.isQuestion = true → (r.answer q).after.table = r.table
  reference : ∀ s, s.isReference = true →
    (r.answer (.insert s)).reply = .ok (.shape s) ∧ (r.answer (.insert s)).after = r
  unwritable : ∀ s, s.hasLongKey = true →
    (r.answer (.insert s)).reply = .error (.beyond .digits) ∧ (r.answer (.insert s)).after = r
  fresh : ∀ s, s.isReference = false → s.hasLongKey = false → r.table.get? s.key = none →
    (r.answer (.insert s)).reply = .ok (.shape s) ∧
      (r.answer (.insert s)).after.table.shapes = r.table.shapes ++ [s]
  again : ∀ s, r.table.get? s.key = some s →
    (r.answer (.insert s)).reply = .ok (.shape s) ∧ (r.answer (.insert s)).after = r
  clash : ∀ s other, s.isReference = false → s.hasLongKey = false → r.table.get? s.key = some other → other ≠ s →
    (r.answer (.insert s)).reply = .error (.unsupported (.clashingKey s.key)) ∧ (r.answer (.insert s)).after = r
  get : ∀ key s, r.table.get? key = some s → (r.answer (.get key)).reply = .ok (.shape s)
  getMissing : ∀ key, r.table.get? key = none → (r.answer (.get key)).reply = .error (.unresolved key)
  resolve : ∀ s, r.Follows s (r.answer (.resolve s)).reply .shape
  memory : ∀ s, r.Follows s (r.answer (.needsMemory s)).reply fun s' => .flag s'.livesInMemory
  location : ∀ s, r.Follows s (r.answer (.location s)).reply fun s' =>
    .location (if s'.livesInMemory then .memory else .stack)
  declarations : ∀ s, (r.answer (.declarations s)).reply =
    if (s :: s.children).any Shape.hasLongKey then .error (.beyond .digits)
    else (Solidity.declarations r.table s).map .declarations

theorem Regular.behaves (hr : r.Regular) : r.Behaves where
  appends := answer_extends r
  question _ hq := (answer_learns hq).table_eq
  reference s hs := by
    have hlong : s.hasLongKey = false := by
      cases s with
      | reference _ => rfl
      | _ => cases hs
    have hanswer := answer_insert (r := r) hlong
    rwa [Table.insert_of_reference hs] at hanswer
  unwritable s hs := by
    change (r.insert s).reply = _ ∧ (r.insert s).after = _
    rw [insert_of_hasLongKey hs]
    exact ⟨rfl, rfl⟩
  fresh s hs hlong h := by
    obtain ⟨t, hinsert, hshapes⟩ := Table.insert_of_none hs h
    have hanswer := answer_insert (r := r) hlong
    rw [hinsert] at hanswer
    refine ⟨hanswer.1, ?_⟩
    rw [hanswer.2]
    exact hshapes
  again s h := by
    obtain ⟨hmem, -⟩ := Table.mem_of_get? h
    have hanswer := answer_insert (r := r) (hr.writable s hmem)
    rwa [Table.insert_of_get? (r.table.not_reference s hmem) h, if_pos rfl] at hanswer
  clash s other hs hlong h hne := by
    have hanswer := answer_insert (r := r) hlong
    rwa [Table.insert_of_get? hs h, if_neg hne] at hanswer
  get key s h := by
    change (r.find key).map Reply.shape = _
    rw [find_eq_ok.2 h]
    rfl
  getMissing key h := by
    change (r.find key).map Reply.shape = _
    rw [find, h]
    rfl
  resolve s := follows_resolve r s _
  memory s := follows_askMemory hr.recalls s _
  location s := follows_askMemory hr.recalls s fun b => .location (if b then .memory else .stack)
  declarations s := by
    change (r.askDeclarations s).1.map Reply.declarations = _
    rw [askDeclarations_eq hr.recalls]
    split <;> rfl

/-- After any requests, of which some may have been refused, a registrar behaves as its table says, whatever has
been asked before; and after any further ones each entry still has its place, its shape and its key. -/
theorem run_behaves (asked : List Request) : (run {} asked).Behaves ∧
    ∀ (more : List Request) (i : Nat) (s : Shape), (run {} asked).table.shapes[i]? = some s →
      (run {} (asked ++ more)).table.shapes[i]? = some s ∧ (run {} (asked ++ more)).table.get? s.key = some s := by
  refine ⟨regular_empty.run.behaves, fun more i s hs => ?_⟩
  rw [run_append]
  obtain ⟨later, hlater⟩ := run_extends (run {} asked) more
  have hi : i < (run {} asked).table.shapes.length := (List.getElem?_eq_some_iff.1 hs).1
  have hplace : ((run {} asked).run more).table.shapes[i]? = some s := by
    rw [← hlater, List.getElem?_append_left hi]
    exact hs
  exact ⟨hplace, Table.get?_eq_some_iff.2 ⟨List.mem_of_getElem? hplace, rfl⟩⟩

/-- A reference has no answer before its shape is registered and the answer of the shape afterwards. A type that was
registered before it keeps its place. -/
theorem run_behaves_late : ((run {} [.needsMemory (.reference "P")]).answer (.needsMemory (.reference "P"))).reply =
      .error (.unresolved "P") ∧
    ((run {} [.needsMemory (.reference "P"), .insert (.simpleEnum "P" ["A"])]).answer
      (.needsMemory (.reference "P"))).reply = .ok (.flag false) ∧
    (run {} ([.lowerFormat (.primitive .bool)] ++ [.insert (.simpleEnum "P" ["A"])])).table.shapes[0]? =
      some (.primitive .bool) := by
  have hbefore : (run {} [.needsMemory (.reference "P")]).table.get? "P" = none := by decide
  have hafter : (run {} [.needsMemory (.reference "P"), .insert (.simpleEnum "P" ["A"])]).table.get? "P" =
      some (.simpleEnum "P" ["A"]) := by decide
  refine ⟨?_, ?_, ?_⟩
  · exact ((run_behaves _).1.memory _).missing "P" (.missing hbefore)
  · exact ((run_behaves _).1.memory _).found (.simpleEnum "P" ["A"]) (.reference hafter (.solid rfl))
  · exact ((run_behaves [.lowerFormat (.primitive .bool)]).2 _ 0 (.primitive .bool) (by decide)).1

end Registrar

end Solidity

end SolidityWire
