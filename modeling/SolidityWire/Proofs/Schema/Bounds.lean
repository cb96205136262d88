/-
Documents that go beyond a bound: nodes that stand too deep inside one another, and numbers that are too long to be
shown. A fault that is not told has its cause in the document.
-/
import SolidityWire.Schema.Reader

namespace SolidityWire

namespace Value

/-! ## Depth of nodes -/

/-- Whether at most so many nodes stand inside one another, the items of lists and the keys and contents of
mappings inside their node. -/
def nestsWithin : (levels : Nat) → Value → Bool
  | 0, _ => false
  | levels + 1, node =>
    match node.opened with
    | list items => items.all (nestsWithin levels)
    | dict entries => entries.all fun (k, v) => k.nestsWithin levels && v.nestsWithin levels
    | _ => true

theorem nestsWithin_of_item {node item : Value} {items : List Value} {levels : Nat} (h : node.opened = .list items)
    (hitem : item ∈ items) (hn : node.nestsWithin (levels + 1) = true) : item.nestsWithin levels = true := by
  rw [nestsWithin, h] at hn
  exact List.all_eq_true.1 hn item hitem

theorem nestsWithin_of_entry {node : Value} {entry : Value × Value} {entries : List (Value × Value)} {levels : Nat}
    (h : node.opened = .dict entries) (hentry : entry ∈ entries) (hn : node.nestsWithin (levels + 1) = true) :
    entry.1.nestsWithin levels = true ∧ entry.2.nestsWithin levels = true := by
  rw [nestsWithin, h] at hn
  exact Bool.and_eq_true_iff.1 (List.all_eq_true.1 hn entry hentry)

theorem nestsWithin_succ : ∀ {levels : Nat} {node : Value}, node.nestsWithin levels = true →
    node.nestsWithin (levels + 1) = true
  | 0, _, h => nomatch h
  | levels + 1, node, h => by
    rw [nestsWithin] at h ⊢
    split
    · rename_i items hitems
      rw [hitems] at h
      exact List.all_eq_true.2 fun item hitem => nestsWithin_succ (List.all_eq_true.1 h item hitem)
    · rename_i entries hentries
      rw [hentries] at h
      refine List.all_eq_true.2 fun entry hentry => ?_
      obtain ⟨hk, hv⟩ := Bool.and_eq_true_iff.1 (List.all_eq_true.1 h entry hentry)
      exact Bool.and_eq_true_iff.2 ⟨nestsWithin_succ hk, nestsWithin_succ hv⟩
    · rfl

theorem nestsWithin_of_le {levels levels' : Nat} {node : Value} (h : levels ≤ levels')
    (hn : node.nestsWithin levels = true) : node.nestsWithin levels' = true := by
  induction h with
  | refl => exact hn
  | step _ ih => exact nestsWithin_succ ih

/-! ## Numbers that are too long -/

section Long

variable {label : Nat} {whole : Value}

mutual

theorem isTooLong_of_replaceAgain (v : Value) : (replaceAgain label whole v).isTooLong = true →
    v.isTooLong = true ∨ whole.isTooLong = true := by
  cases v with
  | again l =>
    intro h
    rw [replaceAgain] at h
    split at h
    · exact Or.inr h
    · cases h
  | labelled l v =>
    intro h
    -- below its own label nothing is replaced
    rw [replaceAgain] at h
    split at h
    · exact Or.inl h
    · exact isTooLong_of_replaceAgain v h
  | list items => exact anyTooLong_of_replaceAgain items
  | set items => exact anyTooLong_of_replaceAgain items
  | tuple items => exact anyTooLong_of_replaceAgain items
  | dict entries => exact entriesTooLong_of_replaceAgain entries
  | _ => exact Or.inl
termination_by structural v

theorem anyTooLong_of_replaceAgain (vs : List Value) : anyTooLong (replaceInItems label whole vs) = true →
    anyTooLong vs = true ∨ whole.isTooLong = true := by
  cases vs with
  | nil => exact Or.inl
  | cons v vs =>
    intro h
    rw [replaceInItems, anyTooLong, Bool.or_eq_true] at h
    rw [anyTooLong, Bool.or_eq_true]
    rcases h with h | h
    · exact (isTooLong_of_replaceAgain v h).imp_left Or.inl
    · exact (anyTooLong_of_replaceAgain vs h).imp_left Or.inr
termination_by structural vs

theorem entriesTooLong_of_replaceAgain (entries : List (Value × Value)) :
    entriesTooLong (replaceInEntries label whole entries) = true →
      entriesTooLong entries = true ∨ whole.isTooLong = true := by
  rcases entries with _ | ⟨⟨k, v⟩, rest⟩
  · exact Or.inl
  · intro h
    rw [replaceInEntries, entriesTooLong, Bool.or_eq_true, Bool.or_eq_true] at h
    rw [entriesTooLong, Bool.or_eq_true, Bool.or_eq_true]
    rcases h with (h | h) | h
    · exact (isTooLong_of_replaceAgain k h).imp_left fun hk => Or.inl (Or.inl hk)
    · exact (isTooLong_of_replaceAgain v h).imp_left fun hv => Or.inl (Or.inr hv)
    · exact (entriesTooLong_of_replaceAgain rest h).imp_left Or.inr
termination_by structural entries

end

end Long

theorem isTooLong_of_opened {node : Value} (h : node.opened.isTooLong = true) : node.isTooLong = true := by
  cases node with
  | labelled label v => exact (isTooLong_of_replaceAgain v h).elim id id
  | _ => exact h

theorem anyTooLong_of_mem {item : Value} : ∀ {items : List Value}, item ∈ items → item.isTooLong = true →
    anyTooLong items = true
  | v :: vs, hitem, hlong => by
    rw [anyTooLong, Bool.or_eq_true]
    rcases List.mem_cons.1 hitem with rfl | hitem
    · exact Or.inl hlong
    · exact Or.inr (anyTooLong_of_mem hitem hlong)

theorem entriesTooLong_of_mem {entry : Value × Value} : ∀ {entries : List (Value × Value)}, entry ∈ entries →
    entry.1.isTooLong = true ∨ entry.2.isTooLong = true → entriesTooLong entries = true
  | (k, v) :: rest, hentry, hlong => by
    rw [entriesTooLong, Bool.or_eq_true, Bool.or_eq_true]
    rcases List.mem_cons.1 hentry with rfl | hentry
    · exact Or.inl hlong
    · exact Or.inr (entriesTooLong_of_mem hentry hlong)

theorem isTooLong_of_item {node item : Value} {items : List Value} (h : node.opened = .list items)
    (hitem : item ∈ items) (hlong : item.isTooLong = true) : node.isTooLong = true := by
  refine isTooLong_of_opened ?_
  rw [h, isTooLong]
  exact anyTooLong_of_mem hitem hlong

theorem isTooLong_of_entry {node : Value} {entry : Value × Value} {entries : List (Value × Value)}
    (h : node.opened = .dict entries) (hentry : entry ∈ entries)
    (hlong : entry.1.isTooLong = true ∨ entry.2.isTooLong = true) : node.isTooLong = true := by
  refine isTooLong_of_opened ?_
  rw [h, isTooLong]
  exact entriesTooLong_of_mem hentry hlong

end Value

/-! ## Faults -/

namespace SchemaFault

/-- A bound that the fault goes beyond is one that the node goes beyond. -/
structure Justified (levels : Nat) (node : Value) (fault : SchemaFault) : Prop where
  nesting : fault.limit? = some .nesting → node.nestsWithin levels = false
  digits : fault.limit? = some .digits → node.isTooLong = true

variable {levels : Nat} {node : Value} {fault : SchemaFault}

/-- The words for a fault may show numbers that the node has as well. -/
theorem justified_of_shown (hbeyond : ∀ l, fault ≠ .beyond l)
    (hshown : ∀ v, fault.node? = some v → v.isTooLong = true → node.isTooLong = true) :
    fault.Justified levels node := by
  have hlimit : fault.limit? = if fault.node?.any Value.isTooLong then some .digits else none := by
    cases fault with
    | beyond l => exact absurd rfl (hbeyond l)
    | _ => rfl
  constructor
  · intro h
    rw [hlimit] at h
    split at h <;> cases h
  · intro h
    rw [hlimit] at h
    split at h
    · rename_i hany
      obtain ⟨v, hv, hlong⟩ := (Option.any_eq_true _ _).1 hany
      exact hshown v hv hlong
    · cases h

/-- The words show no more than the node at which reading stopped. -/
theorem justified_of_node (hbeyond : ∀ l, fault ≠ .beyond l) (h : fault.node? = some node) :
    fault.Justified levels node :=
  justified_of_shown hbeyond fun _ hv hlong => Option.some.inj (h.symm.trans hv) ▸ hlong

theorem justified_of_none (hbeyond : ∀ l, fault ≠ .beyond l) (h : fault.node? = none) : fault.Justified levels node :=
  justified_of_shown hbeyond fun _ hv => nomatch h.symm.trans hv

theorem Justified.mono {levels' : Nat} (h : fault.Justified levels' node) (hle : levels ≤ levels') :
    fault.Justified levels node where
  nesting hn := by
    rw [← Bool.not_eq_true]
    exact fun hw => Bool.false_ne_true ((h.nesting hn).symm.trans (Value.nestsWithin_of_le hle hw))
  digits := h.digits

theorem Justified.of_item {item : Value} {items : List Value} (h : fault.Justified levels item)
    (hnode : node.opened = .list items) (hitem : item ∈ items) : fault.Justified (levels + 1) node where
  nesting hn := by
    rw [← Bool.not_eq_true]
    exact fun hw => Bool.false_ne_true ((h.nesting hn).symm.trans (Value.nestsWithin_of_item hnode hitem hw))
  digits hd := Value.isTooLong_of_item hnode hitem (h.digits hd)

theorem Justified.of_content {entry : Value × Value} {entries : List (Value × Value)}
    (h : fault.Justified levels entry.2) (hnode : node.opened = .dict entries) (hentry : entry ∈ entries) :
    fault.Justified (levels + 1) node where
  nesting hn := by
    rw [← Bool.not_eq_true]
    exact fun hw => Bool.false_ne_true ((h.nesting hn).symm.trans (Value.nestsWithin_of_entry hnode hentry hw).2)
  digits hd := Value.isTooLong_of_entry hnode hentry (Or.inr (h.digits hd))

end SchemaFault

end SolidityWire
