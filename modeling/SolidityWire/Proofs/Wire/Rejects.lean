/-
What a decoder rejects, the counterpart of what it accepts: the bytes that it refuses, with the reason and with the
number of those that it consumes all the same. Where a decoder goes on after another one, it rejects what the first
one rejects, and what the second one rejects behind a code of the first one.
-/
import SolidityWire.Proofs.Wire.Accepts

namespace SolidityWire

open Cursor

/-- The decoder refuses exactly these bytes at a position, each time for the reason that is said and going past as
many of them as are said. -/
def Decoder.Rejects {α : Type} (d : Decoder α) (why : Nat → List UInt8 → DecodeError → Nat → Prop) : Prop :=
  ∀ position bytes e cur, d ⟨position, bytes⟩ = (.error e, cur) ↔
    ∃ used, why position bytes e used ∧ cur = ⟨position + used, bytes.drop used⟩

namespace Decoder

variable {α β : Type} {d : Decoder α} {why : Nat → List UInt8 → DecodeError → Nat → Prop}

theorem Rejects.congr {why' : Nat → List UInt8 → DecodeError → Nat → Prop} (hd : d.Rejects why)
    (h : ∀ position bytes e used, why position bytes e used ↔ why' position bytes e used) : d.Rejects why' := by
  intro position bytes e cur
  simp only [hd position bytes e cur, h]

theorem give_rejects (a : α) : (give a).Rejects fun _ _ _ _ => False := by
  intro position bytes e cur
  exact ⟨fun h => (nomatch h), fun ⟨_, h, _⟩ => h.elim⟩

theorem refuse_rejects (e : DecodeError) : (refuse e : Decoder α).Rejects fun _ _ e' used => e' = e ∧ used = 0 := by
  intro position bytes e' cur
  constructor
  · intro h
    cases h
    exact ⟨0, ⟨rfl, rfl⟩, rfl⟩
  · rintro ⟨_, ⟨rfl, rfl⟩, rfl⟩
    rfl

theorem andThen_rejects {code : α → List UInt8 → Prop} {f : α → Decoder β}
    {why' : α → Nat → List UInt8 → DecodeError → Nat → Prop} (ha : d.Accepts code) (hd : d.Rejects why)
    (hf : ∀ a, (f a).Rejects (why' a)) :
    (d.andThen f).Rejects fun position bytes e used => why position bytes e used ∨
      ∃ a front back more, code a front ∧ bytes = front ++ back ∧ why' a (position + front.length) back e more ∧
        used = front.length + more := by
  intro position bytes e cur
  unfold andThen
  constructor
  · intro h
    split at h
    · rename_i a cur' he
      obtain ⟨front, hfront, hpast⟩ := (ha _ _ _).1 he
      obtain ⟨more, hmore, rfl⟩ := (hf a _ _ e cur).1 h
      refine ⟨front.length + more, Or.inr ⟨a, front, cur'.rest, more, hfront, hpast.rest, ?_, rfl⟩, ?_⟩
      · rw [← show cur'.position = _ from hpast.position]
        exact hmore
      · rw [hpast.eq_drop, List.drop_drop, Nat.add_assoc]
    · rename_i e' cur' he
      cases h
      obtain ⟨used, hused, rfl⟩ := (hd _ _ _ _).1 he
      exact ⟨used, Or.inl hused, rfl⟩
  · rintro ⟨used, hused | ⟨a, front, back, more, hfront, rfl, hmore, rfl⟩, rfl⟩
    · rw [(hd _ _ _ _).2 ⟨used, hused, rfl⟩]
    · rw [(ha _ _ _).2 ⟨front, hfront, past_mk⟩]
      refine (hf a _ _ _ _).2 ⟨more, hmore, ?_⟩
      rw [← List.drop_drop, List.drop_left, Nat.add_assoc]

theorem map_rejects {f : α → β} (hd : d.Rejects why) : (d.map f).Rejects why := by
  intro position bytes e cur
  rw [← hd position bytes e cur]
  unfold Decoder.map andThen
  rcases d ⟨position, bytes⟩ with ⟨_ | a, cur'⟩
  · exact ⟨fun h => by cases h; rfl, fun h => by cases h; rfl⟩
  · exact ⟨fun h => (nomatch h), fun h => (nomatch h)⟩

theorem byte_rejects : byte.Rejects fun position bytes e used => bytes = [] ∧ e = .endOfInput position ∧ used = 0 := by
  intro position bytes e cur
  unfold byte
  cases bytes with
  | nil =>
    constructor
    · intro h
      cases h
      exact ⟨0, ⟨rfl, rfl, rfl⟩, rfl⟩
    · rintro ⟨_, ⟨-, rfl, rfl⟩, rfl⟩
      rfl
  | cons b rest => exact ⟨fun h => (nomatch h), fun ⟨_, ⟨h, _⟩, _⟩ => (nomatch h)⟩

end Decoder

theorem Cursor.split?_eq_none_iff {n : Nat} {bytes : List UInt8} : split? n bytes = none ↔ bytes.length < n := by
  constructor
  · intro h
    refine Nat.lt_of_not_le fun hle => ?_
    have hsome := split?_eq_some_iff.2 ⟨(List.take_append_drop n bytes).symm, List.length_take_of_le hle⟩
    exact nomatch h.symm.trans hsome
  · intro h
    cases hsplit : split? n bytes with
    | none => rfl
    | some parts =>
      obtain ⟨rfl, rfl⟩ := split?_eq_some_iff.1 hsplit
      rw [List.length_append] at h
      omega

theorem Decoder.bytes_rejects (n : Nat) : (bytes n).Rejects fun position data e used =>
    data.length < n ∧ e = .notEnough n position data.length ∧ used = 0 := by
  intro position data e cur
  simp only [← split?_eq_none_iff]
  unfold bytes
  dsimp only
  cases split? n data with
  | none =>
    constructor
    · intro h
      cases h
      exact ⟨0, ⟨rfl, rfl, rfl⟩, rfl⟩
    · rintro ⟨_, ⟨-, rfl, rfl⟩, rfl⟩
      rfl
  | some parts => exact ⟨fun h => (nomatch h), fun ⟨_, ⟨h, _⟩, _⟩ => (nomatch h)⟩

end SolidityWire
