/-
What a registry needs grows with its containers, and what is asked of it is asked of each container. A table is
told by the shapes that are needed, apart from their order, so that the order of the containers neither decides
whether they are lowered nor what stands under a key.
-/
import SolidityWire.Proofs.Shape.Acceptance

namespace SolidityWire

theorem Table.shapes_nodup (t : Table) : t.shapes.Nodup :=
  t.keys_nodup.of_map

namespace Registry

variable {r r' : Registry}

/-! ## More containers -/

theorem Occurs.mono (h : r ⊆ r') {f : Format} (ho : r.Occurs f) : r'.Occurs f := by
  induction ho with
  | content hc hf => exact .content (h hc) hf
  | option _ ih => exact ih.option
  | sequence _ ih => exact ih.sequence
  | mapKey _ ih => exact ih.mapKey
  | mapValue _ ih => exact ih.mapValue
  | tuple _ hf ih => exact ih.tuple hf
  | array _ ih => exact ih.array

/-- With more containers no shape is needed less. -/
theorem Needs.mono (h : r ⊆ r') {s : Shape} (hs : r.Needs s) : r'.Needs s := by
  rcases hs with ⟨f, ho, hs⟩ | ⟨name, c, hc, hs⟩
  · exact (ho.mono h).needs hs
  · exact Or.inr ⟨name, c, h hc, hs⟩

theorem DependsOn.mono (h : r ⊆ r') {a b : String} (hd : r.DependsOn a b) : r'.DependsOn a b := by
  obtain ⟨s, hs, hk, hb⟩ := hd
  exact ⟨s, hs.mono h, hk, hb⟩

theorem IsNamed.of_subset (hr : r'.IsNamed) (h : r ⊆ r') : r.IsNamed :=
  ⟨fun name c hc => hr.container name c (h hc), fun name c hc => hr.variant name c (h hc)⟩

theorem Expressible.of_subset (hr : r'.Expressible) (h : r ⊆ r') : r.Expressible :=
  ⟨fun f ho => hr.1 f (ho.mono h), fun name c hc => hr.2 name c (h hc)⟩

theorem Distinct.of_subset (hr : r'.Distinct) (h : r ⊆ r') : r.Distinct :=
  fun name c hc => hr name c (h hc)

theorem Writable.of_subset (hr : r'.Writable) (h : r ⊆ r') : r.Writable :=
  fun f ho => hr f (ho.mono h)

theorem Acyclic.of_subset (hr : r'.Acyclic) (h : r ⊆ r') : r.Acyclic :=
  fun key hkey => hr key (hkey.lift id fun _ _ hd => hd.mono h)

/-! ## Tables -/

/-- A table of more containers keeps what stands under each key. -/
theorem get?_of_subset {t t' : Table} (ht : r.lower.result = .ok t) (ht' : r'.lower.result = .ok t') (h : r ⊆ r')
    {key : String} {s : Shape} (hs : t.get? key = some s) : t'.get? key = some s := by
  obtain ⟨hmem, hk⟩ := Table.get?_eq_some_iff.1 hs
  have hneeds := (mem_of_lower ht s).1 hmem
  exact Table.get?_eq_some_iff.2 ⟨(mem_of_lower ht' s).2 (hneeds.mono h), hk⟩

/-! ## The order of containers -/

/-- Acceptance is the same for registries of the same containers. -/
theorem accepted_of_subset (h : r ⊆ r') (h' : r' ⊆ r) (ht : ∃ t, r.lower.result = .ok t) :
    ∃ t, r'.lower.result = .ok t := by
  obtain ⟨he, hd, hk, hc, ha, hw⟩ := lower_eq_ok_iff.1 ht
  -- that all dependencies are needed is what takes both inclusions
  have hclosed : r'.Closed := fun a b hdep => by
    obtain ⟨s, hs, hkey⟩ := hc a b (hdep.mono h')
    exact ⟨s, hs.mono h, hkey⟩
  have hkeyed : Shape.Keyed r'.Needs := hk.mono fun s hs => hs.mono h'
  exact lower_eq_ok_iff.2 ⟨he.of_subset h', hd.of_subset h', hkeyed, hclosed, ha.of_subset h', hw.of_subset h'⟩

/-- Containers in another order are lowered as well, or not lowered either; the tables have the same shapes in
some order, and lead from each key to the same shape. -/
theorem lower_perm (h : r.Perm r') :
    ((∃ t, r.lower.result = .ok t) ↔ ∃ t, r'.lower.result = .ok t) ∧
    ∀ t t', r.lower.result = .ok t → r'.lower.result = .ok t' →
      t.shapes.Perm t'.shapes ∧ ∀ key, t.get? key = t'.get? key := by
  have hsub : r ⊆ r' := h.subset
  have hsub' : r' ⊆ r := h.symm.subset
  refine ⟨⟨accepted_of_subset hsub hsub', accepted_of_subset hsub' hsub⟩, fun t t' ht ht' => ⟨?_, fun key => ?_⟩⟩
  · rw [List.perm_ext_iff_of_nodup t.shapes_nodup t'.shapes_nodup]
    intro s
    rw [mem_of_lower ht, mem_of_lower ht']
    exact ⟨fun hs => hs.mono hsub, fun hs => hs.mono hsub'⟩
  · apply Option.ext
    intro s
    exact ⟨get?_of_subset ht ht' hsub, get?_of_subset ht' ht hsub'⟩

/-- A container that refers to another one, which comes after it. -/
def forward : Registry :=
  [("A", .newTypeStruct (.option (.typeName "B"))), ("B", .newTypeStruct (.primitive (.integer false .w8)))]

/-- Keys in the order of the containers. -/
theorem lower_perm_forward : forward.Perm forward.reverse ∧ ∃ t t', forward.lower.result = .ok t ∧
    (lower forward.reverse).result = .ok t' ∧ t.keys = ["bool", "opt_B", "A", "uint8", "B"] ∧
    t'.keys = ["uint8", "B", "bool", "opt_B", "A"] ∧ t.shapes.Perm t'.shapes ∧ ∀ key, t.get? key = t'.get? key := by
  have hperm : forward.Perm forward.reverse := (List.reverse_perm forward).symm
  have hrun : forward.lower.result.toOption.map Table.keys = some ["bool", "opt_B", "A", "uint8", "B"] := rfl
  have hrun' : (lower forward.reverse).result.toOption.map Table.keys = some ["uint8", "B", "bool", "opt_B", "A"] :=
    rfl
  obtain ⟨t, ht, hkeys⟩ := Option.map_eq_some_iff.1 hrun
  obtain ⟨t', ht', hkeys'⟩ := Option.map_eq_some_iff.1 hrun'
  have ht := toOption_eq_some.1 ht
  have ht' := toOption_eq_some.1 ht'
  exact ⟨hperm, t, t', ht, ht', hkeys, hkeys', (lower_perm hperm).2 t t' ht ht'⟩

end Registry

end SolidityWire
