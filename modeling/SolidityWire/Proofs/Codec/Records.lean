/-
Records and members of generated types. When a record's type can be made its fields have different names, so
that each field is found under its name, and a record is made of given values exactly as the fields' own values
allow. The member of an enumeration with an ordinal has the name at its place.
-/
import Mathlib.Data.List.Nodup
import SolidityWire.Codec.Types
import SolidityWire.Proofs.Except

namespace SolidityWire

/-- Whether the value is null. -/
def Value.isNull : Value → Bool
  | .null => true
  | _ => false

/-- Under different names each entry is found. -/
theorem lookup_of_mem {β : Type} {name : String} {b : β} : ∀ {entries : List (String × β)},
    (entries.map Prod.fst).Nodup → (name, b) ∈ entries → entries.lookup name = some b
  | (name', b') :: rest, hn, h => by
    rw [List.map_cons, List.nodup_cons] at hn
    rw [List.lookup_cons]
    rcases List.mem_cons.1 h with he | hm
    · cases he; rw [beq_self_eq_true]
    · have hne : (name == name') = false := by
        rw [beq_eq_false_iff_ne]
        rintro rfl
        exact hn.1 (List.mem_map.2 ⟨(name, b), hm, rfl⟩)
      rw [hne]
      exact lookup_of_mem hn.2 hm

/-- An operation is missing from a record that shades operations and has a field of its name. -/
theorem Value.lacks_record_iff {key operation : String} {entries : List (String × Value)} {shades : Bool} :
    (record key entries shades).lacks operation = true ↔ shades = true ∧ operation ∈ entries.map Prod.fst := by
  cases shades with
  | false => simp [lacks]
  | true =>
    rw [lacks, List.lookup_isSome_iff, and_iff_right rfl, List.mem_map]
    simp only [beq_iff_eq, @eq_comm _ operation]

namespace Codec.RecordType

theorem nodup_of_fault? {t : RecordType} (h : t.fault? = none) : t.names.Nodup := by
  unfold fault? at h
  simp only at h
  split at h
  · cases h
  · rename_i hn
    simp only [Bool.or_eq_true, Bool.not_eq_true', not_or, decide_eq_false_iff_not, Decidable.not_not] at hn
    exact hn.2

/-- Filling gives each field what is given for it, or else its own value. -/
theorem fill_eq_ok {given : List (String × Value)} : ∀ {fields : List RecordField} {entries : List (String × Value)},
    entries.map Prod.fst = fields.map RecordField.name →
    (∀ f ∈ fields, ∀ p ∈ entries, p.1 = f.name → (given.lookup f.name).or f.default? = some p.2) →
    fill given fields = .ok entries
  | [], [], _, _ => rfl
  | f :: fields, (name, v) :: entries, hn, h => by
    obtain ⟨rfl, hrest⟩ := List.cons.inj hn
    have hv := h f List.mem_cons_self _ List.mem_cons_self rfl
    have ih := fill_eq_ok hrest fun g hg p hp => h g (List.mem_cons_of_mem _ hg) p (List.mem_cons_of_mem _ hp)
    rw [fill, ih]
    split
    · rename_i hl; rw [hl] at hv; cases hv; rfl
    · rename_i hl hd; rw [hl, hd] at hv; cases hv; rfl
    · rename_i hl hd; rw [hl, hd] at hv; cases hv

/-- From values for fields of its own that leave none without one, a type makes a record unless something
keeps it from making any. -/
theorem make_of_fill {t : RecordType} {key : String} {given entries : List (String × Value)}
    (hg : ∀ p ∈ given, p.1 ∈ t.names) (hf : fill given t.fields = .ok entries) :
    t.make key given = match t.obstacle? with
      | some m => .error m
      | none => .ok (.record key entries t.hasOwnDefaults) := by
  unfold make
  rw [if_pos (by simpa only [List.all_eq_true, hasField, List.contains_iff_mem] using hg), hf]
  cases t.obstacle? <;> rfl

end Codec.RecordType

theorem Codec.ofRecord_eq_ok {t : RecordType} {g : GeneratedType} (h : GeneratedType.ofRecord t = .ok g) :
    g = .record t := by
  unfold GeneratedType.ofRecord at h
  split at h
  · cases h
  · exact (Except.ok.inj h).symm

namespace Codec.EnumType

/-- A name becomes the next member, or none. -/
theorem members_of_addName {typeName name : String} {t t' : EnumType} {ordinal : Nat}
    (h : t.addName typeName name ordinal = .ok t') :
    t'.members = t.members ∨ t'.members = t.members ++ [(name, ordinal)] := by
  unfold addName at h
  simp only at h
  split at h
  · cases h; exact Or.inl rfl
  split at h
  · cases h; exact Or.inl rfl
  split at h
  · split at h
    · cases h; exact Or.inl rfl
    split at h <;> cases h
  split at h
  · cases h; exact Or.inl rfl
  split at h
  · cases h
  · cases h; exact Or.inr rfl

/-- The members that names bring are among them, each with its place as its ordinal. -/
theorem mem_members_of_addNames {typeName : String} : ∀ {names : List String} {t t' : EnumType} {start : Nat},
    t.addNames typeName start names = .ok t' → ∀ p ∈ t'.members,
      p ∈ t.members ∨ start ≤ p.2 ∧ names[p.2 - start]? = some p.1
  | [], t, t', start, h, p, hp => by cases h; exact Or.inl hp
  | name :: rest, t, t', start, h, p, hp => by
    obtain ⟨t1, h1, h2⟩ := bind_eq_ok.1 h
    rcases mem_members_of_addNames h2 p hp with hp | ⟨hle, hget⟩
    · rcases members_of_addName h1 with he | he
      · exact Or.inl (he ▸ hp)
      · rw [he, List.mem_append, List.mem_singleton] at hp
        rcases hp with hp | rfl
        · exact Or.inl hp
        · exact Or.inr ⟨Nat.le_refl _, by rw [Nat.sub_self]; rfl⟩
    · refine Or.inr ⟨by omega, ?_⟩
      rw [show p.2 - start = p.2 - (start + 1) + 1 by omega]
      exact hget

theorem eq_of_check {t t' : EnumType} (h : t.check = .ok t') : t = t' := by
  unfold check at h
  split at h
  · cases h
  split at h
  · cases h
  split at h
  · cases h
  split at h
  · cases h
  · exact Except.ok.inj h

/-- The member with an ordinal has the name at its place. -/
theorem getElem?_of_member? {typeName : String} {names : List String} {t : EnumType} {n : Nat} {name : String}
    (ht : ofNames typeName names = .ok t) (hn : t.member? n = some name) : names[n]? = some name := by
  obtain ⟨t', ht', h⟩ := bind_eq_ok.1 ht
  rw [eq_of_check h] at ht'
  obtain ⟨⟨name', n'⟩, hf, rfl⟩ := Option.map_eq_some_iff.1 hn
  have hn' : n' = n := of_decide_eq_true (List.find?_some (p := fun x : String × Nat => decide (x.2 = n)) hf)
  subst hn'
  rcases mem_members_of_addNames ht' _ (List.mem_of_find?_eq_some hf) with h | ⟨-, h⟩
  · cases h
  · exact h

theorem isPrivate_of_head {typeName name : String} (hname : name.toList.head? ≠ some '_') :
    isPrivate typeName name = false := by
  have hbegin : ("_" ++ typeName ++ "__").toList = '_' :: (typeName ++ "__").toList := by simp [String.toList_append]
  have hstart : name.startsWith ("_" ++ typeName ++ "__") = false := by
    rw [String.startsWith_string_eq_false_iff, hbegin]
    rintro ⟨rest, hrest⟩
    rw [← hrest] at hname
    exact hname rfl
  simp [isPrivate, hstart]

theorem isEnclosed_of_head {name : String} (hname : name.toList.head? ≠ some '_') {n : Nat} (hn : 0 < n) :
    isEnclosed n name = false := by
  obtain ⟨n, rfl⟩ : ∃ m, n = m + 1 := ⟨n - 1, by omega⟩
  cases hcs : name.toList with
  | nil => simp [isEnclosed, hcs]
  | cons ch rest =>
    have hne : ch ≠ '_' := fun he => hname (by rw [hcs, he]; rfl)
    simp [isEnclosed, hcs, List.replicate_succ, hne]

/-- A name that does not begin with an underscore becomes a member. -/
theorem addName_of_head {typeName name : String} (hname : name.toList.head? ≠ some '_') {t t' : EnumType}
    {ordinal : Nat} (h : t.addName typeName name ordinal = .ok t') :
    t' = { t with members := t.members ++ [(name, ordinal)] } := by
  have horder : ¬(name = "_order_" ∨ name = "__order__") := by
    rintro (rfl | rfl) <;> exact hname (by decide)
  unfold addName at h
  simp only [isPrivate_of_head hname, horder, isEnclosed_of_head hname Nat.one_pos,
    isEnclosed_of_head hname Nat.two_pos, Bool.false_eq_true, if_false] at h
  split at h
  · cases h
  · exact (Except.ok.inj h).symm

theorem addNames_of_head {typeName : String} : ∀ {names : List String} {t t' : EnumType} {start : Nat},
    (∀ name ∈ names, name.toList.head? ≠ some '_') → t.addNames typeName start names = .ok t' →
    t'.members = t.members ++ names.zipIdx start ∧ t'.attributes = t.attributes
  | [], t, t', start, _, h => by
    cases h
    exact ⟨(List.append_nil _).symm, rfl⟩
  | name :: rest, t, t', start, hnames, h => by
    obtain ⟨t1, h1, h2⟩ := bind_eq_ok.1 h
    obtain ⟨hm, ha⟩ := addNames_of_head (fun n hn => hnames n (List.mem_cons_of_mem _ hn)) h2
    rw [addName_of_head (hnames name List.mem_cons_self) h1] at hm ha
    refine ⟨?_, ha⟩
    rw [hm, List.append_assoc, List.zipIdx_cons]
    rfl

/-- If no name begins with an underscore, each is a member under its place, and the type has no other
attributes. -/
theorem member?_of_head {typeName : String} {names : List String} {t : EnumType}
    (hnames : ∀ name ∈ names, name.toList.head? ≠ some '_') (ht : ofNames typeName names = .ok t) :
    (∀ n, t.member? n = names[n]?) ∧ t.attributes = [] := by
  obtain ⟨t', ht', h⟩ := bind_eq_ok.1 ht
  rw [eq_of_check h] at ht'
  obtain ⟨hm, ha⟩ := addNames_of_head hnames ht'
  refine ⟨fun n => ?_, ha⟩
  cases hn : t.member? n with
  | some name => exact (getElem?_of_member? ht hn).symm
  | none =>
    cases hget : names[n]? with
    | none => rfl
    | some name =>
      -- the pair of the name and its place would have been found
      have hmem : (name, n) ∈ t.members := by
        rw [hm]
        exact List.mem_zipIdx_iff_getElem?.2 hget
      rw [member?, Option.map_eq_none_iff, List.find?_eq_none] at hn
      exact absurd (decide_eq_true rfl) (hn (name, n) hmem)

end Codec.EnumType

end SolidityWire
