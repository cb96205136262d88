/-
Lengths: reading accepts exactly the numbers of at most 64 bits, each in its shortest form. The groups
from some bit on stand for the rest of the length above that bit, which may only be zero if it is all of
the length.
-/
import SolidityWire.Proofs.Text.Utf8
import SolidityWire.Proofs.Wire.Accepts
import SolidityWire.Wire.Length

namespace SolidityWire.Length

open Text

theorem encode_of_lt {n : Nat} (h : n < 128) : encode n = [n.toUInt8] := by
  rw [encode, if_pos h]

theorem encode_of_le {n : Nat} (h : 128 ≤ n) : encode n = (n % 128 + 128).toUInt8 :: encode (n / 128) := by
  rw [encode, if_neg (by omega)]

/-- The groups from a bit on, read behind a byte, spell the rest of a length. -/
def RestCode (shift value n : Nat) (e : List UInt8) : Prop :=
  ∃ m, n = value + m * 2 ^ shift ∧ m < 2 ^ (64 - shift) ∧ (0 < shift → 0 < m) ∧ e = encode m

/-- What may follow the byte of one group. -/
def TailCode (shift value : Nat) (b : UInt8) (n : Nat) (e : List UInt8) : Prop :=
  ¬(shift = 63 ∧ b > 1) ∧
    if b < 128 then ¬(b = 0 ∧ shift > 0) ∧ n = value + b.toNat % 128 * 2 ^ shift ∧ e = []
    else RestCode (shift + 7) (value + b.toNat % 128 * 2 ^ shift) n e

theorem shift_add (x m shift : Nat) : x * 2 ^ shift + m * 2 ^ (shift + 7) = (x + 128 * m) * 2 ^ shift := by
  rw [Nat.pow_add, Nat.add_mul, Nat.mul_comm 128 m, Nat.mul_assoc m, Nat.mul_comm 128]

/-- Only the last group may be the highest bit of a length. -/
theorem two_pow_left {groups shift : Nat} (hs : shift + 7 * (groups + 1) = 70) :
    shift = 63 ∧ 2 ^ (64 - shift) = 2 ∨ shift ≤ 56 ∧ 2 ^ (64 - shift) = 128 * 2 ^ (64 - (shift + 7)) := by
  rcases Nat.eq_zero_or_pos groups with rfl | hg
  · obtain rfl : shift = 63 := by omega
    exact Or.inl ⟨rfl, rfl⟩
  · exact Or.inr ⟨by omega, by rw [show 64 - shift = 7 + (64 - (shift + 7)) by omega, Nat.pow_add]⟩

theorem restCode_of_tailCode {groups shift value n : Nat} (hs : shift + 7 * (groups + 1) = 70) {b : UInt8}
    {back : List UInt8} (ht : TailCode shift value b n back) : RestCode shift value n (b :: back) := by
  have hleft := two_pow_left hs
  obtain ⟨hb, h⟩ := ht
  have hb256 := b.toNat_lt
  simp only [gt_iff_lt, UInt8.lt_iff_toNat_lt, UInt8.reduceToNat] at hb h
  split at h
  · rename_i hlt
    obtain ⟨h0, hn, rfl⟩ := h
    rw [Nat.mod_eq_of_lt hlt] at hn
    refine ⟨b.toNat, hn, ?_, fun hpos => Nat.pos_of_ne_zero fun h => ?_, ?_⟩
    · have := Nat.two_pow_pos (64 - (shift + 7))
      omega
    · exact h0 ⟨UInt8.toNat_inj.1 h, hpos⟩
    · rw [encode_of_lt hlt, Utf8.toUInt8_toNat]
  · obtain ⟨m, hn, hm, hpos, rfl⟩ := h
    -- the number that is left is positive, so that the groups behind this one are not padding
    have hm0 := hpos (by omega)
    refine ⟨b.toNat % 128 + 128 * m, ?_, by omega, fun _ => by omega, ?_⟩
    · rw [hn, Nat.add_assoc, shift_add]
    · rw [encode_of_le (show 128 ≤ b.toNat % 128 + 128 * m by omega), show (b.toNat % 128 + 128 * m) / 128 = m by omega,
        show (b.toNat % 128 + 128 * m) % 128 + 128 = b.toNat by omega, Utf8.toUInt8_toNat]

theorem exists_tailCode {groups shift value n : Nat} (hs : shift + 7 * (groups + 1) = 70) {e : List UInt8}
    (h : RestCode shift value n e) : ∃ b back, TailCode shift value b n back ∧ e = b :: back := by
  have hleft := two_pow_left hs
  obtain ⟨m, hn, hm, hpos, rfl⟩ := h
  rcases Nat.lt_or_ge m 128 with h | h
  · have hb := Utf8.toNat_toUInt8 (show m < 256 by omega)
    refine ⟨m.toUInt8, [], ⟨?_, ?_⟩, encode_of_lt h⟩
    · simp only [gt_iff_lt, UInt8.lt_iff_toNat_lt, UInt8.reduceToNat, hb]; omega
    · rw [if_pos (by simp only [UInt8.lt_iff_toNat_lt, UInt8.reduceToNat, hb]; omega), hb, Nat.mod_eq_of_lt h]
      refine ⟨fun ⟨h0, hs⟩ => ?_, hn, rfl⟩
      have := hpos hs
      rw [h0] at hb
      exact absurd hb (by simp; omega)
  · have hb := Utf8.toNat_toUInt8 (show m % 128 + 128 < 256 by omega)
    refine ⟨(m % 128 + 128).toUInt8, encode (m / 128), ⟨?_, ?_⟩, encode_of_le h⟩
    · simp only [gt_iff_lt, UInt8.lt_iff_toNat_lt, UInt8.reduceToNat, hb]; omega
    · rw [if_neg (by simp only [UInt8.lt_iff_toNat_lt, UInt8.reduceToNat, hb]; omega), hb]
      refine ⟨m / 128, ?_, by omega, fun _ => by omega, rfl⟩
      rw [hn, Nat.add_assoc, shift_add, show (m % 128 + 128) % 128 + 128 * (m / 128) = m by omega]

theorem restCode_cons {groups shift : Nat} (value n : Nat) (e : List UInt8) (hs : shift + 7 * (groups + 1) = 70) :
    (∃ b front back, front = [b] ∧ TailCode shift value b n back ∧ e = front ++ back) ↔ RestCode shift value n e := by
  constructor
  · rintro ⟨b, _, back, rfl, ht, rfl⟩
    exact restCode_of_tailCode hs ht
  · intro h
    obtain ⟨b, back, ht, rfl⟩ := exists_tailCode hs h
    exact ⟨b, [b], back, rfl, ht, rfl⟩

theorem decodeGroups_accepts : ∀ groups shift value, shift + 7 * groups = 70 →
    (decodeGroups groups shift value).Accepts (RestCode shift value)
  | 0, shift, value, hs => by
    -- the shift is tied to the groups that are left, and behind the last of them it is past all bits
    refine (Decoder.refuse_accepts _).congr fun n e => ⟨False.elim, ?_⟩
    rintro ⟨m, -, hm, hpos, -⟩
    have := hpos (by omega)
    rw [show 64 - shift = 0 by omega] at hm
    omega
  | groups + 1, shift, value, hs => by
    unfold decodeGroups
    refine (@Decoder.andThen_accepts _ _ _ _ _ (TailCode shift value) Decoder.byte_accepts fun b => ?_).congr
      fun n e => restCode_cons value n e hs
    have ih := decodeGroups_accepts groups (shift + 7) (value + b.toNat % 128 * 2 ^ shift) (by omega)
    simp only
    split
    · rename_i h
      exact (Decoder.refuse_accepts _).congr fun n e => ⟨False.elim, fun ht => ht.1 h⟩
    rename_i hfirst
    split
    · rename_i hb
      split
      · rename_i h
        refine (Decoder.refuse_accepts _).congr fun n e => ⟨False.elim, fun ht => ?_⟩
        have := ht.2
        rw [if_pos hb] at this
        exact this.1 h
      · rename_i hpad
        refine (Decoder.give_accepts _).congr fun n e => ?_
        unfold TailCode
        rw [if_pos hb]
        exact ⟨fun ⟨hn, he⟩ => ⟨hfirst, hpad, hn, he⟩, fun ⟨_, _, hn, he⟩ => ⟨hn, he⟩⟩
    · rename_i hb
      refine ih.congr fun n e => ?_
      unfold TailCode
      rw [if_neg hb]
      exact ⟨fun h => ⟨hfirst, h⟩, fun h => h.2⟩

/-- Reading accepts the lengths of at most 64 bits, each in one form. -/
theorem decode_accepts : decode.Accepts fun n e => n < 2 ^ 64 ∧ e = encode n := by
  refine (decodeGroups_accepts 10 0 0 rfl).congr fun n e => ?_
  constructor
  · rintro ⟨m, rfl, hm, -, rfl⟩
    rw [Nat.zero_add, Nat.pow_zero, Nat.mul_one]
    exact ⟨hm, rfl⟩
  · rintro ⟨hn, rfl⟩
    exact ⟨n, by rw [Nat.zero_add, Nat.pow_zero, Nat.mul_one], hn, fun h => absurd h (Nat.lt_irrefl 0), rfl⟩

end SolidityWire.Length
