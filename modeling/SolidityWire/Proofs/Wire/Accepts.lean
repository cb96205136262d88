/-
What a decoder accepts: the bytes that it takes off the front of others, each time with the same
result. A decoder is described by a relation between results and their bytes, which holds of what it
reads and of nothing else, wherever the bytes stand.
-/
import SolidityWire.Wire.Cursor

namespace SolidityWire

namespace Cursor

/-- The second cursor stands behind the bytes that come at the first one. -/
structure Past (cur : Cursor) (e : List UInt8) (cur' : Cursor) : Prop where
  rest : cur.rest = e ++ cur'.rest
  position : cur'.position = cur.position + e.length

theorem past_mk {position : Nat} {e rest : List UInt8} : Past ⟨position, e ++ rest⟩ e ⟨position + e.length, rest⟩ :=
  ⟨rfl, rfl⟩

theorem Past.nil (cur : Cursor) : Past cur [] cur :=
  ⟨rfl, rfl⟩

theorem past_nil_iff {cur cur' : Cursor} : Past cur [] cur' ↔ cur' = cur := by
  constructor
  · rintro ⟨hr, hp⟩
    cases cur; cases cur'
    simp only [List.nil_append, List.length_nil, Nat.add_zero] at hr hp
    rw [hr, hp]
  · rintro rfl; exact Past.nil cur'

theorem past_append_iff {cur cur'' : Cursor} {e e' : List UInt8} :
    Past cur (e ++ e') cur'' ↔ ∃ cur', Past cur e cur' ∧ Past cur' e' cur'' := by
  constructor
  · rintro ⟨hr, hp⟩
    rw [List.length_append] at hp
    exact ⟨⟨cur.position + e.length, e' ++ cur''.rest⟩, ⟨by rw [hr, List.append_assoc], rfl⟩, rfl,
      hp.trans (Nat.add_assoc ..).symm⟩
  · rintro ⟨cur', ⟨hr, hp⟩, hr', hp'⟩
    exact ⟨by rw [hr, hr', List.append_assoc], by rw [hp', hp, List.length_append]; omega⟩

theorem Past.eq_drop {position : Nat} {bytes e : List UInt8} {cur : Cursor} (h : Past ⟨position, bytes⟩ e cur) :
    cur = ⟨position + e.length, bytes.drop e.length⟩ := by
  obtain ⟨hrest, hposition⟩ := h
  rw [show bytes = e ++ cur.rest from hrest, List.drop_left, ← show cur.position = _ from hposition]

end Cursor

open Cursor

/-- The decoder succeeds exactly where a code of its result comes, and goes past it. -/
def Decoder.Accepts {α : Type} (d : Decoder α) (code : α → List UInt8 → Prop) : Prop :=
  ∀ cur a cur', d cur = (.ok a, cur') ↔ ∃ e, code a e ∧ Past cur e cur'

namespace Decoder

variable {α β : Type} {d : Decoder α} {code : α → List UInt8 → Prop}

/-- No code begins another one. -/
theorem Accepts.unique (hd : d.Accepts code) {a b : α} {e e' rest rest' : List UInt8} (ha : code a e) (hb : code b e')
    (h : e ++ rest = e' ++ rest') : a = b ∧ e = e' ∧ rest = rest' := by
  have h1 := (hd ⟨0, e ++ rest⟩ a _).2 ⟨e, ha, past_mk⟩
  have h2 := (hd ⟨0, e ++ rest⟩ b ⟨0 + e'.length, rest'⟩).2 ⟨e', hb, by rw [h]; exact past_mk⟩
  obtain ⟨hv, hc⟩ := Prod.mk.inj (h1.symm.trans h2)
  obtain ⟨-, rfl⟩ := Cursor.mk.inj hc
  exact ⟨Except.ok.inj hv, List.append_cancel_right h, rfl⟩

theorem Accepts.congr {code' : α → List UInt8 → Prop} (hd : d.Accepts code) (h : ∀ a e, code a e ↔ code' a e) :
    d.Accepts code' := by
  intro cur a cur'
  simp only [hd cur a cur', h]

/-- A decoder in a buffer accepts what the bytes at its place begin with, and goes past it. -/
theorem Accepts.drop_iff (hd : d.Accepts code) {bytes : List UInt8} {start : Nat} {a : α} {cur : Cursor} :
    d ⟨start, bytes.drop start⟩ = (.ok a, cur) ↔
      ∃ e, code a e ∧ e <+: bytes.drop start ∧ cur = ⟨start + e.length, bytes.drop (start + e.length)⟩ := by
  rw [hd]
  refine exists_congr fun e => and_congr_right fun _ => ?_
  constructor
  · intro hpast
    refine ⟨⟨cur.rest, hpast.rest.symm⟩, ?_⟩
    rw [hpast.eq_drop, List.drop_drop]
  · rintro ⟨⟨rest, hrest⟩, rfl⟩
    refine ⟨?_, rfl⟩
    change bytes.drop start = e ++ bytes.drop (start + e.length)
    rw [← List.drop_drop, ← hrest, List.drop_left]

theorem give_accepts (a : α) : (give a).Accepts fun b e => b = a ∧ e = [] := by
  intro cur b cur'
  constructor
  · intro h; cases h; exact ⟨[], ⟨rfl, rfl⟩, .nil _⟩
  · rintro ⟨e, ⟨rfl, rfl⟩, h⟩
    rw [past_nil_iff.1 h]; rfl

theorem refuse_accepts (e : DecodeError) : (refuse e : Decoder α).Accepts fun _ _ => False := by
  intro cur b cur'
  exact ⟨fun h => (nomatch h), fun ⟨_, h, _⟩ => h.elim⟩

theorem andThen_accepts {f : α → Decoder β} {code' : α → β → List UInt8 → Prop} (hd : d.Accepts code)
    (hf : ∀ a, (f a).Accepts (code' a)) :
    (d.andThen f).Accepts fun b e => ∃ a front back, code a front ∧ code' a b back ∧ e = front ++ back := by
  intro cur b cur''
  unfold andThen
  constructor
  · intro h
    split at h
    · rename_i a cur' he
      obtain ⟨front, hfront, hpast⟩ := (hd _ _ _).1 he
      obtain ⟨back, hback, hpast'⟩ := (hf a _ _ _).1 h
      exact ⟨front ++ back, ⟨a, front, back, hfront, hback, rfl⟩, past_append_iff.2 ⟨cur', hpast, hpast'⟩⟩
    · cases h
  · rintro ⟨_, ⟨a, front, back, hfront, hback, rfl⟩, hpast⟩
    obtain ⟨cur', h1, h2⟩ := past_append_iff.1 hpast
    rw [(hd _ _ _).2 ⟨front, hfront, h1⟩]
    exact (hf a _ _ _).2 ⟨back, hback, h2⟩

theorem map_accepts {f : α → β} (hd : d.Accepts code) : (d.map f).Accepts fun b e => ∃ a, code a e ∧ b = f a := by
  refine (andThen_accepts hd fun a => give_accepts (f a)).congr fun b e => ?_
  constructor
  · rintro ⟨a, front, back, h, ⟨rfl, rfl⟩, rfl⟩
    exact ⟨a, by rwa [List.append_nil], rfl⟩
  · rintro ⟨a, h, rfl⟩
    exact ⟨a, e, [], h, ⟨rfl, rfl⟩, by rw [List.append_nil]⟩

theorem byte_accepts : byte.Accepts fun b e => e = [b] := by
  rintro ⟨position, bytes⟩ b ⟨position', rest⟩
  unfold byte
  cases bytes with
  | nil =>
    refine ⟨fun h => (nomatch h), ?_⟩
    rintro ⟨e, rfl, h, -⟩; cases h
  | cons b' bytes =>
    constructor
    · intro h; cases h; exact ⟨[b], rfl, rfl, rfl⟩
    · rintro ⟨e, rfl, h, hp⟩
      obtain ⟨rfl, rfl⟩ := List.cons.inj h
      exact congrArg (fun n => (Except.ok b', Cursor.mk n bytes)) hp.symm

end Decoder

theorem Cursor.split?_eq_some_iff {n : Nat} {bytes front back : List UInt8} :
    split? n bytes = some (front, back) ↔ bytes = front ++ back ∧ front.length = n := by
  induction n generalizing bytes front with
  | zero =>
    rw [List.length_eq_zero_iff]
    constructor
    · intro h; cases h; exact ⟨rfl, rfl⟩
    · rintro ⟨rfl, rfl⟩; rfl
  | succ n ih =>
    cases bytes with
    | nil => cases front <;> simp [split?]
    | cons b bytes =>
      simp only [split?, Option.map_eq_some_iff, Prod.exists, Prod.mk.injEq]
      constructor
      · rintro ⟨front', back', h, rfl, rfl⟩
        obtain ⟨rfl, rfl⟩ := ih.1 h
        exact ⟨rfl, rfl⟩
      · rintro ⟨h, hl⟩
        cases front with
        | nil => cases hl
        | cons b' front =>
          cases h
          exact ⟨front, back, ih.2 ⟨rfl, by simpa using hl⟩, rfl, rfl⟩

theorem Decoder.bytes_accepts (n : Nat) : (bytes n).Accepts fun data e => e = data ∧ data.length = n := by
  rintro ⟨position, all⟩ data ⟨position', rest⟩
  unfold bytes
  constructor
  · intro h
    split at h
    · rename_i front back he
      obtain ⟨rfl, rfl⟩ := split?_eq_some_iff.1 he
      cases h
      exact ⟨data, ⟨rfl, rfl⟩, past_mk⟩
    · cases h
  · rintro ⟨e, ⟨rfl, rfl⟩, hr, hp⟩
    rw [split?_eq_some_iff.2 ⟨hr, rfl⟩]
    exact congrArg (fun n => (Except.ok e, Cursor.mk n rest)) hp.symm

end SolidityWire
