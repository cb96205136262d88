/-
The order of a table. Whatever is lowered into a table, and wherever lowering stops, each shape stands behind
the shapes that it is built from, references apart, and behind the primitive types that its functions read and
write on their own; structs and enumerations are not empty, and their fields have distinct names.

A plan, also one that stops, registers each shape behind what has to be there before. Carried out on a table in
order it leaves a table in order: what a step registers, or finds registered already, is there from then on.
-/
import SolidityWire.Proofs.Shape.Needs

namespace SolidityWire

open Plan

/-! ## Shapes in order -/

namespace Shape

/-- Others can be built on the shape: it only refers to one, or it is among the shapes. -/
def StandsIn (shapes : List Shape) (s : Shape) : Prop :=
  s.isReference = true ∨ s ∈ shapes

/-- The primitive types that the functions of a shape read and write on their own: the flag of an option, the
number of items and the choice of a variant. -/
def helpers : Shape → List Primitive
  | option _ => [.bool]
  | sequence _ | taggedEnum _ _ => [.integer false .w64]
  | _ => []

/-- A struct or an enumeration is not empty, and no two fields have one name. -/
def HasFields : Shape → Prop
  | struct _ fields => fields ≠ [] ∧ (fields.map Prod.fst).Nodup
  | simpleEnum _ members => members ≠ []
  | taggedEnum _ variants => variants ≠ [] ∧ (taggedFields variants).Nodup
  | _ => True

/-- A shape as it is registered behind others. -/
structure Supported (before : List Shape) (s : Shape) : Prop where
  solid : s.isReference = false
  children : ∀ child ∈ s.children, child.StandsIn before
  helpers : ∀ p ∈ s.helpers, .primitive p ∈ before
  fields : s.HasFields

/-- Behind the shapes `front`, each of the shapes is supported by what is before it. -/
def InOrder (front shapes : List Shape) : Prop :=
  ∀ before s later, shapes = before ++ s :: later → s.Supported (front ++ before)

theorem StandsIn.mono {shapes shapes' : List Shape} {s : Shape} (h : s.StandsIn shapes) (hs : shapes ⊆ shapes') :
    s.StandsIn shapes' :=
  h.imp_right fun h => hs h

theorem Supported.mono {before before' : List Shape} {s : Shape} (h : s.Supported before) (hs : before ⊆ before') :
    s.Supported before' where
  solid := h.solid
  children child hc := (h.children child hc).mono hs
  helpers p hp := hs (h.helpers p hp)
  fields := h.fields

theorem supported_primitive (before : List Shape) (p : Primitive) : (primitive p).Supported before :=
  ⟨rfl, fun _ h => (nomatch h), fun _ h => (nomatch h), trivial⟩

theorem inOrder_nil (front : List Shape) : InOrder front [] := by
  intro before s later h
  simp at h

theorem inOrder_append {front xs ys : List Shape} (hx : InOrder front xs) (hy : InOrder (front ++ xs) ys) :
    InOrder front (xs ++ ys) := by
  intro before s later h
  -- the shape is one of the first list or one of the second
  rcases List.append_eq_append_iff.1 h with ⟨rest, rfl, hrest⟩ | ⟨rest, rfl, hrest⟩
  · rw [← List.append_assoc]
    exact hy rest s later hrest
  · cases rest with
    | nil =>
      have hs := hy [] s later hrest.symm
      rwa [List.append_nil, List.append_nil] at hs
    | cons x rest =>
      obtain ⟨rfl, -⟩ := List.cons.inj hrest
      exact hx before s rest rfl

theorem inOrder_singleton {front : List Shape} {s : Shape} (h : s.Supported front) : InOrder front [s] := by
  intro before x later he
  rcases List.singleton_eq_append_iff.1 he with ⟨rfl, hx⟩ | ⟨-, hx⟩
  · cases hx
    rwa [List.append_nil]
  · cases hx

theorem InOrder.head {front rest : List Shape} {s : Shape} (h : InOrder front (s :: rest)) : s.Supported front := by
  have hs := h [] s rest rfl
  rwa [List.append_nil] at hs

theorem InOrder.tail {front rest : List Shape} {s : Shape} (h : InOrder front (s :: rest)) :
    InOrder (front ++ [s]) rest := by
  intro before x later he
  rw [List.append_assoc]
  exact h (s :: before) x later (congrArg (List.cons s) he)

end Shape

/-! ## Plans in order -/

namespace Plan

variable {α β : Type}

/-- The shapes that a plan registers before it ends or stops. -/
def shapes (p : Plan α) : List Shape :=
  p.steps.filterMap Step.shape?

/-- Behind the shapes `front` the plan registers shapes in order, and what it leads to is as it should be
behind all of them. -/
structure Builds (p : Plan α) (front : List Shape) (post : List Shape → α → Prop) : Prop where
  order : Shape.InOrder front p.shapes
  result : ∀ a, p.result = .ok a → post (front ++ p.shapes) a

variable {front : List Shape} {post : List Shape → α → Prop}

theorem builds_pure {a : α} (h : post front a) : (pure a : Plan α).Builds front post where
  order := Shape.inOrder_nil front
  result b hb := by
    cases hb
    change post (front ++ []) a
    rwa [List.append_nil]

theorem builds_stop (e : Unsupported) : (stop e : Plan α).Builds front post where
  order := Shape.inOrder_nil front
  result _ h := nomatch h

theorem builds_step {st : Step} {s : Shape} {post : List Shape → Unit → Prop} (hst : st.shape? = some s)
    (hs : s.Supported front) (h : post (front ++ [s]) ()) : (step st).Builds front post := by
  have hshapes : (step st).shapes = [s] := by simp [shapes, step, hst]
  constructor
  · rw [hshapes]
    exact Shape.inOrder_singleton hs
  · intro u hu
    rw [hshapes]
    exact h

theorem builds_register {s : Shape} {post : List Shape → Shape → Prop} (hs : s.Supported front)
    (h : post (front ++ [s]) s) : (register s).Builds front post where
  order := Shape.inOrder_singleton hs
  result s' hs' := by
    cases hs'
    exact h

/-- A plan goes on behind the shapes that the one before it has registered; if that one stops, so does the
whole. -/
theorem builds_bind {p : Plan α} {f : α → Plan β} {mid : List Shape → α → Prop} {post : List Shape → β → Prop}
    (hp : p.Builds front mid) (hf : ∀ all a, front ⊆ all → mid all a → (f a).Builds all post) :
    (p >>= f).Builds front post := by
  change (p.andThen f).Builds front post
  unfold andThen
  cases hr : p.result with
  | error e => exact ⟨hp.order, fun _ h => nomatch h⟩
  | ok a =>
    have hback := hf (front ++ p.shapes) a (List.subset_append_left ..) (hp.result a hr)
    have hshapes : (⟨p.steps ++ (f a).steps, (f a).result⟩ : Plan β).shapes = p.shapes ++ (f a).shapes :=
      List.filterMap_append ..
    constructor
    · rw [hshapes]
      exact Shape.inOrder_append hp.order hback.order
    · intro b hb
      rw [hshapes, ← List.append_assoc]
      exact hback.result b hb

theorem Builds.imp {p : Plan α} {post' : List Shape → α → Prop} (h : p.Builds front post)
    (hpost : ∀ all a, post all a → post' all a) : p.Builds front post' where
  order := h.order
  result a ha := hpost _ a (h.result a ha)

theorem builds_unless {b : Bool} {e : Unsupported} {p : Plan α} (h : b = false → p.Builds front post) :
    (if b then stop e else p : Plan α).Builds front post := by
  cases b with
  | false => exact h rfl
  | true => exact builds_stop e

end Plan

/-! ## Formats -/

theorem builds_primitive (p : Primitive) (front : List Shape) :
    (registerPrimitive p).Builds front fun all s => s = .primitive p ∧ s ∈ all :=
  builds_register (Shape.supported_primitive front p) ⟨rfl, by simp⟩

/-- A shape that has just been registered stands there. -/
theorem standsIn_concat (front : List Shape) (s : Shape) : s.StandsIn (front ++ [s]) := by
  right
  simp

/-- The struct of named shapes that stand there. -/
theorem supported_struct {front : List Shape} {name : String} {fields : List (String × Shape)} (hne : fields ≠ [])
    (hn : (fields.map Prod.fst).Nodup) (hs : ∀ field ∈ fields, field.2.StandsIn front) :
    (Shape.struct name fields).Supported front :=
  ⟨rfl, List.forall_mem_map.2 hs, fun _ h => (nomatch h), hne, hn⟩

/-- The sequence of a shape that stands there. -/
theorem supported_sequence {front : List Shape} {element : Shape} (hcount : .count ∈ front)
    (h : element.StandsIn front) : (Shape.sequence element).Supported front :=
  ⟨rfl, List.forall_mem_singleton.2 h, List.forall_mem_singleton.2 hcount, trivial⟩

mutual

/-- The plan of a format registers children before parents, also where it stops. -/
theorem format_builds : ∀ (f : Format) (front : List Shape), f.plan.Builds front fun all s => s.StandsIn all
  | .primitive p, front => (builds_primitive p front).imp fun _ _ h => Or.inr h.2
  | .float32, _ => builds_stop _
  | .float64, _ => builds_stop _
  | .variable _, _ => builds_stop _
  | .typeName _, _ => builds_pure (Or.inl rfl)
  | .option content, front => by
    unfold Format.plan
    apply builds_bind (builds_primitive .bool front)
    rintro mid _ - ⟨rfl, hflag⟩
    apply builds_bind (format_builds content mid)
    intro all value hmid hvalue
    have hs : (Shape.option value).Supported all :=
      ⟨rfl, List.forall_mem_singleton.2 hvalue, List.forall_mem_singleton.2 (hmid hflag), trivial⟩
    exact builds_register hs (standsIn_concat all _)
  | .sequence content, front => by
    unfold Format.plan
    apply builds_bind (builds_primitive _ front)
    rintro mid _ - ⟨rfl, hcount⟩
    apply builds_bind (format_builds content mid)
    intro all element hmid helement
    exact builds_register (supported_sequence (hmid hcount) helement) (standsIn_concat all _)
  | .map key value, front => by
    unfold Format.plan
    apply builds_bind (builds_primitive _ front)
    rintro counted _ - ⟨rfl, hcount⟩
    apply builds_bind (format_builds key counted)
    intro keyed k hcounted hk
    apply builds_bind (format_builds value keyed)
    intro all v hkeyed hv
    -- the pair of key and value comes before the sequence of pairs
    have hnames : ["key", "value"].Nodup := by decide
    have hpair : (entryStruct k v).Supported all := supported_struct (List.cons_ne_nil _ _) hnames
      (List.forall_mem_cons.2 ⟨hk.mono hkeyed, List.forall_mem_singleton.2 hv⟩)
    have hstep : (step (.registerEntries (entryStruct k v))).Builds all fun all _ => (entryStruct k v).StandsIn all :=
      builds_step rfl hpair (standsIn_concat all _)
    apply builds_bind hstep
    intro paired _ hall hstands
    exact builds_register (supported_sequence (hall (hkeyed (hcounted hcount))) hstands) (standsIn_concat paired _)
  | .tuple [], _ => builds_stop _
  | .tuple (content :: contents), front => by
    unfold Format.plan
    apply builds_bind (format_builds content front)
    intro mid part _ hpart
    apply builds_bind (formats_build contents mid)
    rintro all parts hmid ⟨-, hparts⟩
    have hstand : ∀ s ∈ part :: parts, s.StandsIn all := List.forall_mem_cons.2 ⟨hpart.mono hmid, hparts⟩
    rw [← entryNames_map_snd (part :: parts)] at hstand
    have hs : (tupleStruct (part :: parts)).Supported all :=
      supported_struct (List.cons_ne_nil _ _) (entryNames_nodup (part :: parts)) (List.forall_mem_map.1 hstand)
    exact builds_register hs (standsIn_concat all _)
  | .array content size, front => by
    unfold Format.plan
    apply builds_bind (format_builds content front)
    intro all element _ helement
    refine builds_unless fun _ => ?_
    exact builds_register ⟨rfl, List.forall_mem_singleton.2 helement, fun _ h => (nomatch h), trivial⟩
      (standsIn_concat all _)

theorem formats_build : ∀ (fs : List Format) (front : List Shape),
    (Format.plans fs).Builds front fun all ss => ss.length = fs.length ∧ ∀ s ∈ ss, s.StandsIn all
  | [], _ => builds_pure ⟨rfl, fun _ h => nomatch h⟩
  | f :: fs, front => by
    unfold Format.plans
    apply builds_bind (format_builds f front)
    intro mid s _ hs
    apply builds_bind (formats_build fs mid)
    rintro all ss hmid ⟨hl, hss⟩
    exact builds_pure ⟨congrArg Nat.succ hl, List.forall_mem_cons.2 ⟨hs.mono hmid, hss⟩⟩

end

/-! ## Containers -/

theorem fieldsPlan_builds : ∀ (fields : List (String × Format)) (front : List Shape),
    (fieldsPlan fields).Builds front fun all named =>
      named.length = fields.length ∧ ∀ field ∈ named, field.2.StandsIn all
  | [], _ => builds_pure ⟨rfl, fun _ h => nomatch h⟩
  | (name, f) :: rest, front => by
    unfold fieldsPlan
    apply builds_bind (format_builds f front)
    intro mid s _ hs
    apply builds_bind (fieldsPlan_builds rest mid)
    rintro all named hmid ⟨hl, hnamed⟩
    exact builds_pure ⟨congrArg Nat.succ hl, List.forall_mem_cons.2 ⟨hs.mono hmid, hnamed⟩⟩

theorem structPlan_builds (name : String) {fields : List (String × Format)} (hne : fields ≠ []) (front : List Shape) :
    (structPlan name fields).Builds front fun all s => s.StandsIn all := by
  unfold structPlan
  apply builds_bind (fieldsPlan_builds fields front)
  rintro all named - ⟨hl, hnamed⟩
  split
  · rename_i hn
    have hne' : named ≠ [] := by
      rintro rfl
      exact hne (List.length_eq_zero_iff.1 hl.symm)
    exact builds_register (supported_struct hne' hn hnamed) (standsIn_concat all _)
  · exact builds_stop _

theorem variant_builds (enumName variant : String) (vf : VariantFormat) (front : List Shape) :
    (vf.plan enumName variant).Builds front fun all payload => ∀ s ∈ payload, s.StandsIn all := by
  have carried : ∀ {p : Plan Shape}, p.Builds front (fun all s => s.StandsIn all) →
      (p >>= fun s => pure (some s)).Builds front fun all payload => ∀ s ∈ payload, s.StandsIn all := by
    intro p hp
    apply builds_bind hp
    intro all s _ hs
    apply builds_pure
    intro s' hs'
    cases hs'
    exact hs
  cases vf with
  | unit => exact builds_pure fun _ h => nomatch h
  | newType content => exact carried (format_builds content front)
  | tuple contents =>
    refine builds_unless fun hne => carried (structPlan_builds _ ?_ front)
    intro h
    rw [← entryNames_map_snd contents, h] at hne
    cases hne
  | struct fields =>
    refine builds_unless fun hne => carried (structPlan_builds _ ?_ front)
    rintro rfl
    cases hne
  | «variable» _ => exact builds_stop _

theorem variantsPlan_builds (enumName : String) : ∀ (vs : List IndexedVariant) (front : List Shape),
    (variantsPlan enumName vs).Builds front fun all variants =>
      variants.length = vs.length ∧ ∀ payload ∈ Shape.payloads variants, payload.2.StandsIn all
  | [], _ => builds_pure ⟨rfl, fun _ h => nomatch h⟩
  | v :: rest, front => by
    unfold variantsPlan
    apply builds_bind (variant_builds enumName v.name v.format front)
    intro mid payload _ hpayload
    apply builds_bind (variantsPlan_builds enumName rest mid)
    rintro all variants hmid ⟨hl, hvariants⟩
    refine builds_pure ⟨congrArg Nat.succ hl, ?_⟩
    cases payload with
    | none => exact hvariants
    | some s => exact List.forall_mem_cons.2 ⟨(hpayload s rfl).mono hmid, hvariants⟩

theorem enumPlan_builds (name : String) (vs : List IndexedVariant) (front : List Shape) :
    (enumPlan name vs).Builds front fun all s => s.StandsIn all := by
  unfold enumPlan
  refine builds_unless fun hne => ?_
  have hpos : vs ≠ [] := by
    rintro rfl
    cases hne
  split
  · have hmembers : vs.map (·.name) ≠ [] := fun h => hpos (List.map_eq_nil_iff.1 h)
    have hs : (Shape.simpleEnum name (vs.map (·.name))).Supported front :=
      ⟨rfl, fun _ h => (nomatch h), fun _ h => (nomatch h), hmembers⟩
    exact builds_register hs (standsIn_concat front _)
  · apply builds_bind (variantsPlan_builds name vs front)
    rintro mid variants - ⟨hl, hvariants⟩
    split
    · rename_i hn
      apply builds_bind (builds_primitive _ mid)
      rintro all _ hmid ⟨rfl, hcount⟩
      have hne' : variants ≠ [] := by
        rintro rfl
        exact hpos (List.length_eq_zero_iff.1 hl.symm)
      have hchildren : ∀ payload ∈ Shape.payloads variants, payload.2.StandsIn all :=
        fun payload hp => (hvariants payload hp).mono hmid
      have hs : (Shape.taggedEnum name variants).Supported all :=
        ⟨rfl, List.forall_mem_map.2 hchildren, List.forall_mem_singleton.2 hcount, hne', hn⟩
      exact builds_register hs (standsIn_concat all _)
    · exact builds_stop _

theorem body_builds (name : String) (c : Container) (front : List Shape) :
    (c.bodyPlan name).Builds front fun all s => s.StandsIn all := by
  cases c with
  | unitStruct => exact builds_stop _
  | newTypeStruct content => exact structPlan_builds name (List.cons_ne_nil _ _) front
  | tupleStruct contents =>
    refine builds_unless fun hne => structPlan_builds name ?_ front
    intro h
    rw [← entryNames_map_snd contents, h] at hne
    cases hne
  | struct fields =>
    refine builds_unless fun hne => structPlan_builds name ?_ front
    rintro rfl
    cases hne
  | enum vs => exact enumPlan_builds name vs front

theorem container_builds (name : String) (c : Container) (front : List Shape) :
    (c.plan name).Builds front fun all s => s.StandsIn all := by
  unfold Container.plan
  -- entering a container registers nothing
  have henter : (step (.enter name)).Builds front fun _ _ => True := ⟨Shape.inOrder_nil front, fun _ _ => trivial⟩
  apply builds_bind henter
  intro all _ _ _
  exact body_builds name c all

theorem registry_builds : ∀ (r : Registry) (front : List Shape), r.plan.Builds front fun _ _ => True
  | [], _ => builds_pure trivial
  | (name, c) :: rest, front => by
    unfold Registry.plan
    apply builds_bind (container_builds name c front)
    intro all _ _ _
    exact registry_builds rest all

/-! ## Tables in order -/

/-- One call of lowering. -/
inductive Lowering where
  | format (f : Format)
  | container (name : String) (c : Container)

/-- The plan of a call. -/
def Lowering.plan : Lowering → Plan Shape
  | format f => f.plan
  | container name c => c.plan name

theorem Lowering.plan_builds (l : Lowering) (front : List Shape) :
    l.plan.Builds front fun all s => s.StandsIn all := by
  cases l with
  | format f => exact format_builds f front
  | container name c => exact container_builds name c front

namespace Table

/-- The table after some calls, whether they have come to their ends or not. -/
def after (t : Table) : List Lowering → Table
  | [] => t
  | l :: rest => (t.carryOut l.plan).1.after rest

/-- Each shape of the table is supported by what is before it. -/
def InOrder (t : Table) : Prop :=
  ∀ before s later, t.shapes = before ++ s :: later → s.Supported before

theorem inOrder_iff {t : Table} : t.InOrder ↔ Shape.InOrder [] t.shapes :=
  Iff.rfl

/-- A shape that is registered is put at the end, unless it is there. -/
theorem shapes_of_insert {t t' : Table} {s : Shape} (h : t.insert s = .ok t') :
    t'.shapes = t.shapes ∨ t'.shapes = t.shapes ++ [s] := by
  unfold insert at h
  split at h
  · split at h
    · cases h
      exact Or.inr rfl
    · split at h
      · cases h
        exact Or.inl rfl
      · cases h
  · cases h
    exact Or.inl rfl

theorem inOrder_insert {t t' : Table} {s : Shape} (ht : t.InOrder) (hs : s.Supported t.shapes)
    (h : t.insert s = .ok t') : t'.InOrder := by
  rw [inOrder_iff] at ht ⊢
  rcases shapes_of_insert h with he | he
  · rwa [he]
  · rw [he]
    exact Shape.inOrder_append ht (Shape.inOrder_singleton hs)

/-- A step puts a supported shape into a table in order, or leaves the table as it is. -/
theorem inOrder_take {t t' : Table} {step : Step} (ht : t.InOrder) (hs : ∀ s ∈ step.shape?, s.Supported t.shapes)
    (h : (t.take step).2 = .ok t') : t'.InOrder := by
  cases step with
  | enter _ =>
    cases h
    exact ht
  | register s => exact inOrder_insert ht (hs s rfl) h
  | registerEntries pair => exact inOrder_insert ht (hs pair rfl) h

/-- Steps that register shapes in order, behind shapes that are there, leave a table in order wherever they
stop. -/
theorem inOrder_takeAll : ∀ {steps : List Step} {t : Table} {front : List Shape}, t.InOrder → front ⊆ t.shapes →
    Shape.InOrder front (steps.filterMap Step.shape?) → (t.takeAll steps).table.InOrder
  | [], _, _, ht, _, _ => ht
  | step :: rest, t, front, ht, hfront, hsteps => by
    unfold takeAll
    split
    · rename_i notices t' htake
      have htake : (t.take step).2 = .ok t' := by rw [htake]
      have hsub : t.shapes ⊆ t'.shapes := fun x hx => (mem_take htake x).2 (Or.inl hx)
      cases hstep : step.shape? with
      | none =>
        rw [List.filterMap_cons_none hstep] at hsteps
        have ht' : t'.InOrder := inOrder_take ht (by simp [hstep]) htake
        exact inOrder_takeAll ht' (List.Subset.trans hfront hsub) hsteps
      | some s =>
        rw [List.filterMap_cons_some hstep] at hsteps
        have hs : s.Supported t.shapes := hsteps.head.mono hfront
        have ht' : t'.InOrder := inOrder_take ht (by simpa [hstep] using hs) htake
        -- the shape is in the table now, whether the step has registered it or found it there
        have hmem : s ∈ t'.shapes := (mem_take htake s).2 (Or.inr ⟨hs.solid, hstep⟩)
        refine inOrder_takeAll ht' ?_ hsteps.tail
        intro x hx
        rcases List.mem_append.1 hx with hx | hx
        · exact hsub (hfront hx)
        · rwa [List.mem_singleton.1 hx]
    · exact ht

theorem inOrder_carryOut {α : Type} {t : Table} {p : Plan α} {post : List Shape → α → Prop} (ht : t.InOrder)
    (hp : p.Builds [] post) : (t.carryOut p).1.InOrder :=
  inOrder_takeAll ht (List.nil_subset _) hp.order

theorem InOrder.after {t : Table} (ht : t.InOrder) : ∀ calls : List Lowering, (t.after calls).InOrder := by
  intro calls
  induction calls generalizing t with
  | nil => exact ht
  | cons l rest ih => exact ih (inOrder_carryOut ht (l.plan_builds []))

/-- What the functions of a shape read and write on their own is there. -/
theorem InOrder.helpers {t : Table} (ht : t.InOrder) {s : Shape} (hs : s ∈ t.shapes) :
    ∀ p ∈ s.helpers, .primitive p ∈ t.shapes := by
  obtain ⟨before, later, he⟩ := List.append_of_mem hs
  intro p hp
  rw [he]
  exact List.mem_append_left _ ((ht before s later he).helpers p hp)

/-- Whatever calls of lowering have been made on the empty table, and wherever each of them has stopped: a key
leads to the shape with that key, no reference is registered, each shape stands behind its children, those that
are references apart, and behind the flag, the number of items or the choice of a variant that it needs; and
structs and enumerations have fields, with distinct names. -/
theorem after_inOrder (calls : List Lowering) :
    (∀ key s, (empty.after calls).get? key = some s ↔ s ∈ (empty.after calls).shapes ∧ s.key = key) ∧
    (empty.after calls).InOrder := by
  refine ⟨fun key s => get?_eq_some_iff, InOrder.after ?_ calls⟩
  exact inOrder_iff.2 (Shape.inOrder_nil [])

end Table

/-- The table of a registry is in order. -/
theorem Registry.inOrder_of_register {r : Registry} {t : Table} (h : r.register.result = .ok t) : t.InOrder := by
  simp only [register] at h
  split at h
  · cases h
    exact Table.inOrder_carryOut (Table.inOrder_iff.2 (Shape.inOrder_nil [])) (registry_builds r [])
  · cases h

end SolidityWire
