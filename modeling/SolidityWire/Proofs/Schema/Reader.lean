/-
Registries that are read. The variants of an enumeration are put in the order of their indices, none of which a
mapping has twice.
-/
import SolidityWire.Proofs.Except
import SolidityWire.Proofs.Schema.Occurs
import SolidityWire.Schema.Reader

namespace SolidityWire

/-! ## Order of variants -/

theorem mem_insertVariant {v w : IndexedVariant} : ∀ {ws : List IndexedVariant},
    w ∈ insertVariant v ws ↔ w = v ∨ w ∈ ws
  | [] => by simp [insertVariant]
  | u :: ws => by
    rw [insertVariant]
    split
    · rw [List.mem_cons]
    · rw [List.mem_cons, mem_insertVariant, List.mem_cons, or_left_comm]

theorem insertVariant_pairwise {v : IndexedVariant} : ∀ {ws : List IndexedVariant},
    ws.Pairwise (fun u w => u.index < w.index) → (∀ w ∈ ws, v.index ≠ w.index) →
    (insertVariant v ws).Pairwise fun u w => u.index < w.index
  | [], _, _ => List.pairwise_singleton _ _
  | u :: ws, hp, hv => by
    obtain ⟨hu, hws⟩ := List.pairwise_cons.1 hp
    have hne := hv u List.mem_cons_self
    rw [insertVariant]
    split
    · rename_i hlt
      refine List.pairwise_cons.2 ⟨fun w hw => ?_, hp⟩
      rcases List.mem_cons.1 hw with rfl | hw
      · exact hlt
      · exact Int.lt_trans hlt (hu w hw)
    · rename_i hlt
      have hrest := insertVariant_pairwise hws fun w hw => hv w (List.mem_cons_of_mem _ hw)
      refine List.pairwise_cons.2 ⟨fun w hw => ?_, hrest⟩
      rcases mem_insertVariant.1 hw with rfl | hw
      · omega
      · exact hu w hw

theorem foldl_insertVariant_pairwise : ∀ {vs sorted : List IndexedVariant},
    sorted.Pairwise (fun v w => v.index < w.index) → (vs.map IndexedVariant.index).Nodup →
    (∀ v ∈ vs, ∀ w ∈ sorted, v.index ≠ w.index) →
    (vs.foldl (fun sorted v => insertVariant v sorted) sorted).Pairwise fun v w => v.index < w.index
  | [], _, hs, _, _ => hs
  | v :: vs, sorted, hs, hn, hd => by
    rw [List.map_cons, List.nodup_cons] at hn
    have hs' := insertVariant_pairwise hs (hd v List.mem_cons_self)
    refine @foldl_insertVariant_pairwise vs _ hs' hn.2 fun u hu w hw => ?_
    rcases mem_insertVariant.1 hw with rfl | hw
    · exact fun he => hn.1 (he ▸ List.mem_map_of_mem hu)
    · exact hd u (List.mem_cons_of_mem _ hu) w hw

/-- Variants with different indices are put in the order of their indices. -/
theorem sortVariants_pairwise {vs : List IndexedVariant} (h : (vs.map IndexedVariant.index).Nodup) :
    (sortVariants vs).Pairwise fun v w => v.index < w.index :=
  foldl_insertVariant_pairwise .nil h fun _ _ _ h => nomatch h

theorem insertVariant_perm (v : IndexedVariant) : ∀ ws : List IndexedVariant, (insertVariant v ws).Perm (v :: ws)
  | [] => .refl _
  | w :: ws => by
    rw [insertVariant]
    split
    · exact .refl _
    · exact ((insertVariant_perm v ws).cons w).trans (.swap v w ws)

theorem foldl_insertVariant_perm : ∀ vs sorted : List IndexedVariant,
    (vs.foldl (fun sorted v => insertVariant v sorted) sorted).Perm (vs ++ sorted)
  | [], _ => .refl _
  | v :: vs, sorted =>
    ((foldl_insertVariant_perm vs (insertVariant v sorted)).trans ((insertVariant_perm v sorted).append_left vs)).trans
      List.perm_middle

/-- Variants are only put in order. -/
theorem sortVariants_perm (vs : List IndexedVariant) : (sortVariants vs).Perm vs := by
  simpa [sortVariants] using foldl_insertVariant_perm vs []

/-- There is one order of variants by their indices. -/
theorem eq_of_pairwise_index {vs ws : List IndexedVariant} (hv : vs.Pairwise fun v w => v.index < w.index)
    (hw : ws.Pairwise fun v w => v.index < w.index) (h : vs.Perm ws) : vs = ws :=
  h.eq_of_pairwise (fun _ _ _ _ hlt hgt => absurd hlt (Int.lt_asymm hgt)) hv hw

/-! ## Containers -/

theorem key_of_ofEntry {entry : Value × Value} {v : IndexedVariant} (h : IndexedVariant.ofEntry entry = .ok v) :
    entry.1 = .integer v.index := by
  unfold IndexedVariant.ofEntry at h
  split at h
  · rename_i index hk
    obtain ⟨⟨name, content⟩, -, h⟩ := bind_eq_ok.1 h
    obtain ⟨f, -, h⟩ := bind_eq_ok.1 h
    cases h
    exact hk
  · cases h

theorem keys_of_mapM_ofEntry : ∀ {entries : List (Value × Value)} {vs : List IndexedVariant},
    entries.mapM IndexedVariant.ofEntry = .ok vs → entries.map Prod.fst = vs.map fun v => .integer v.index
  | [], vs, h => by
    rw [List.mapM_nil] at h
    cases h
    rfl
  | entry :: entries, vs, h => by
    rw [List.mapM_cons] at h
    obtain ⟨v, hv, h⟩ := bind_eq_ok.1 h
    obtain ⟨vs', hvs, h⟩ := bind_eq_ok.1 h
    cases h
    rw [List.map_cons, List.map_cons, key_of_ofEntry hv, keys_of_mapM_ofEntry hvs]

/-- Variants under different keys have different indices. -/
theorem nodup_index_of_mapM_ofEntry {entries : List (Value × Value)} {vs : List IndexedVariant}
    (hk : (entries.map Prod.fst).Pairwise fun k l => k.sameKey l = false)
    (h : entries.mapM IndexedVariant.ofEntry = .ok vs) : (vs.map IndexedVariant.index).Nodup := by
  rw [keys_of_mapM_ofEntry h, List.pairwise_map] at hk
  refine List.pairwise_map.2 (hk.imp fun hne he => ?_)
  simp [Value.sameKey, Value.wholeNumber?, he] at hne

/-- The mapping below the tag of a container, if there is one, has no key twice. -/
def HasKeysApart (node : Value) : Prop :=
  ∀ tag content entries, singleEntry "container" node = .ok (tag, content) → content.opened = .dict entries →
    (entries.map Prod.fst).Pairwise fun k l => k.sameKey l = false

/-- The variants of a container that is read are in the order of their indices. -/
theorem Container.variants_pairwise_of_ofValue {node : Value} {c : Container} (h : Container.ofValue node = .ok c)
    (hk : HasKeysApart node) :
    c.variants.Pairwise fun v w => v.index < w.index := by
  unfold Container.ofValue at h
  split at h
  · cases h; exact .nil
  obtain ⟨⟨tag, content⟩, he, h⟩ := bind_eq_ok.1 h
  simp only at h
  split at h
  · obtain ⟨f, -, h⟩ := bind_eq_ok.1 h
    cases h; exact .nil
  · obtain ⟨items, -, h⟩ := bind_eq_ok.1 h
    obtain ⟨fs, -, h⟩ := bind_eq_ok.1 h
    cases h; exact .nil
  · obtain ⟨fields, -, h⟩ := bind_eq_ok.1 h
    cases h; exact .nil
  · split at h
    · rename_i entries hentries
      obtain ⟨vs, hvs, h⟩ := bind_eq_ok.1 h
      cases h
      exact sortVariants_pairwise (nodup_index_of_mapM_ofEntry (hk _ _ _ he hentries) hvs)
    · cases h
  · cases h

theorem readContainer_eq_ok {entry : Value × Value} {name : String} {c : Container}
    (h : readContainer entry = .ok (name, c)) : entry.1 = .text name ∧ Container.ofValue entry.2 = .ok c := by
  unfold readContainer at h
  split at h
  · rename_i text hname
    obtain ⟨c', hc, h⟩ := bind_eq_ok.1 h
    cases h
    refine ⟨hname, ?_⟩
    unfold underName at hc
    split at hc <;> cases hc
    assumption
  · cases h

/-! ## Registries -/

/-- In a registry that is read the variants of every enumeration are in the order of their indices, in whatever
order the document has them. -/
theorem Registry.ordered_of_ofValue {document : Value} {r : Registry} (h : Registry.ofValue document = .ok r)
    (hk : ∀ entries, document.opened = .dict entries → ∀ entry ∈ entries, HasKeysApart entry.2) : r.Ordered := by
  intro name c hc
  unfold Registry.ofValue at h
  split at h
  · cases h
    cases hc
  · rename_i entries hentries
    obtain ⟨entry, hentry, hread⟩ := exists_of_mem_mapM h hc
    exact Container.variants_pairwise_of_ofValue (readContainer_eq_ok hread).2 (hk entries hentries entry hentry)
  · cases h

end SolidityWire
