/-
Codes in a row: what has several parts is written part by part, each behind the one before.
-/

namespace SolidityWire

/-- Codes of parts, one after the other. -/
inductive Row {α : Type} (code : α → List UInt8 → Prop) : List α → List UInt8 → Prop
  | nil : Row code [] []
  | cons {p : α} {ps : List α} {front back : List UInt8} : code p front → Row code ps back →
      Row code (p :: ps) (front ++ back)

variable {α β : Type} {code code' : α → List UInt8 → Prop}

theorem row_nil_iff {e : List UInt8} : Row code [] e ↔ e = [] :=
  ⟨fun h => by cases h; rfl, fun h => h ▸ .nil⟩

theorem row_cons_iff {p : α} {ps : List α} {e : List UInt8} :
    Row code (p :: ps) e ↔ ∃ front back, code p front ∧ Row code ps back ∧ e = front ++ back :=
  ⟨fun h => by cases h with | cons h1 h2 => exact ⟨_, _, h1, h2, rfl⟩,
    fun ⟨_, _, h1, h2, he⟩ => he ▸ .cons h1 h2⟩

theorem row_singleton_iff {p : α} {e : List UInt8} : Row code [p] e ↔ code p e := by
  rw [row_cons_iff]
  constructor
  · rintro ⟨front, back, h, hn, rfl⟩
    rwa [row_nil_iff.1 hn, List.append_nil]
  · intro h
    exact ⟨e, [], h, .nil, (List.append_nil e).symm⟩

theorem Row.imp : ∀ {ps : List α} {e : List UInt8}, Row code ps e → (∀ p ∈ ps, ∀ e, code p e → code' p e) →
    Row code' ps e
  | _, _, .nil, _ => .nil
  | _, _, .cons h hr, hi =>
    .cons (hi _ List.mem_cons_self _ h) (hr.imp fun p hp => hi p (List.mem_cons_of_mem _ hp))

theorem row_map_iff {f : β → α} : ∀ {ps : List β} {e : List UInt8},
    Row code (ps.map f) e ↔ Row (fun p e => code (f p) e) ps e
  | [], _ => by rw [List.map_nil, row_nil_iff, row_nil_iff]
  | p :: ps, e => by
    rw [List.map_cons, row_cons_iff, row_cons_iff]
    simp only [@row_map_iff f ps]

theorem Row.exists_of_mem : ∀ {ps : List α} {e : List UInt8},
    Row code ps e → ∀ p ∈ ps, ∃ e, code p e
  | _, _, .cons h hr, p, hp => by
    rcases List.mem_cons.1 hp with rfl | hp
    · exact ⟨_, h⟩
    · exact hr.exists_of_mem p hp

/-- The code of a part is no longer than the row. -/
theorem Row.exists_of_mem_le : ∀ {ps : List α} {e : List UInt8},
    Row code ps e → ∀ p ∈ ps, ∃ e', code p e' ∧ e'.length ≤ e.length
  | _, _, .cons h hr, p, hp => by
    rcases List.mem_cons.1 hp with rfl | hp
    · exact ⟨_, h, by simp⟩
    · obtain ⟨e', he, hle⟩ := hr.exists_of_mem_le p hp
      exact ⟨e', he, by simp only [List.length_append]; omega⟩

/-- A row is at least as long as it has parts, if each part has a byte. -/
theorem Row.length_le : ∀ {ps : List α} {e : List UInt8},
    Row code ps e → (∀ p ∈ ps, ∀ e, code p e → e ≠ []) → ps.length ≤ e.length
  | _, _, .nil, _ => Nat.le_refl 0
  | _, _, .cons h hr, hne => by
    have hrest := hr.length_le fun p hp => hne p (List.mem_cons_of_mem _ hp)
    have hfirst := List.length_pos_iff.2 (hne _ List.mem_cons_self _ h)
    simp only [List.length_cons, List.length_append]
    omega

/-- Parts without bytes are a row without bytes. -/
theorem Row.eq_nil : ∀ {ps : List α} {e : List UInt8},
    Row code ps e → (∀ p ∈ ps, ∀ e, code p e → e = []) → e = []
  | _, _, .nil, _ => rfl
  | _, _, .cons h hr, hnil => by
    rw [hnil _ List.mem_cons_self _ h, hr.eq_nil fun p hp => hnil p (List.mem_cons_of_mem _ hp)]
    rfl

theorem Row.functional : ∀ {ps : List α} {e e' : List UInt8},
    Row code ps e → Row code' ps e' → (∀ p ∈ ps, ∀ {e e'}, code p e → code' p e' → e = e') → e = e'
  | _, _, _, .nil, .nil, _ => rfl
  | _, _, _, .cons h hr, .cons h' hr', hu => by
    rw [hu _ List.mem_cons_self h h', hr.functional hr' fun p hp => hu p (List.mem_cons_of_mem _ hp)]

end SolidityWire
