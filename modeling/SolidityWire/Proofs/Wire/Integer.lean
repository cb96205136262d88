/-
Integers of fixed width: reading accepts exactly the numbers of the type, each in its one form, which
has as many bytes as the type is wide.
-/
import SolidityWire.Proofs.Text.Utf8
import SolidityWire.Proofs.Wire.Accepts
import SolidityWire.Wire.Integer

namespace SolidityWire.Integer

open Text

/-! ## Bytes of a number -/

theorem toBytes_length : ∀ width n, (toBytes width n).length = width
  | 0, _ => rfl
  | width + 1, n => congrArg (· + 1) (toBytes_length width (n / 256))

theorem encode_length (width : Nat) (n : Int) : (encode width n).length = width :=
  toBytes_length width _

theorem encode_natCast {width n : Nat} (h : n < 256 ^ width) :
    encode width n = toBytes width n := by
  rw [encode, modulus, ← Int.natCast_emod, Int.toNat_natCast, Nat.mod_eq_of_lt h]

theorem ofBytes_lt : ∀ bytes, ofBytes bytes < modulus bytes.length
  | [] => Nat.one_pos
  | b :: bytes => by
    have ih := ofBytes_lt bytes
    have hb := b.toNat_lt
    simp only [ofBytes, modulus, List.length_cons, Nat.pow_succ] at ih ⊢
    omega

theorem ofBytes_toBytes : ∀ width n, ofBytes (toBytes width n) = n % modulus width
  | 0, n => by simp only [toBytes, ofBytes, modulus, Nat.pow_zero, Nat.mod_one]
  | width + 1, n => by
    have low : n.toUInt8.toNat = n % 256 := by rw [Nat.toUInt8, UInt8.toNat_ofNat']
    simp only [toBytes, ofBytes, modulus, low, ofBytes_toBytes width]
    rw [Nat.pow_succ, Nat.mul_comm (256 ^ width), Nat.mod_mul]

theorem toBytes_ofBytes : ∀ bytes, toBytes bytes.length (ofBytes bytes) = bytes
  | [] => rfl
  | b :: bytes => by
    have hb := b.toNat_lt
    have low : (b.toNat + 256 * ofBytes bytes).toUInt8 = b := by
      rw [Nat.toUInt8, ← UInt8.toNat_inj, UInt8.toNat_ofNat']; omega
    rw [List.length_cons, ofBytes, toBytes, low, show (b.toNat + 256 * ofBytes bytes) / 256 = ofBytes bytes by omega,
      toBytes_ofBytes bytes]

/-! ## Numbers and their residues -/

theorem modulus_pos (width : Nat) : 0 < modulus width :=
  Nat.pow_pos (by decide)

theorem inRange_iff {signed : Bool} {width : Nat} {n : Int} :
    inRange signed width n = true ↔
      if signed then -(modulus width : Int) ≤ 2 * n ∧ 2 * n < modulus width else 0 ≤ n ∧ n < modulus width := by
  unfold inRange
  cases signed <;> simp

/-- A number of the type is told by its residue. -/
theorem ofResidue_emod {signed : Bool} {width : Nat} {n : Int} (h : inRange signed width n = true) :
    ofResidue signed width (n % modulus width).toNat = n := by
  have hpos := modulus_pos width
  rw [inRange_iff] at h
  unfold ofResidue
  generalize modulus width = m at h hpos
  have hmod := Int.emod_nonneg n (show (m : Int) ≠ 0 by omega)
  have hlt := Int.emod_lt_of_pos n (show (0 : Int) < m by omega)
  -- the residue of a number of the type is the number, or `m` more if it is negative
  have residue : 0 ≤ n ∧ n % m = n ∨ n < 0 ∧ n % m = n + m := by
    rcases (show n < 0 ∨ 0 ≤ n by omega) with hn | hn
    · refine Or.inr ⟨hn, ?_⟩
      rw [← Int.add_emod_right]
      exact Int.emod_eq_of_lt (by cases signed <;> simp at h <;> omega) (by omega)
    · exact Or.inl ⟨hn, Int.emod_eq_of_lt hn (by cases signed <;> simp at h <;> omega)⟩
  cases signed <;> simp only [Bool.false_eq_true, if_false, if_true, false_and, true_and] at h ⊢
  · omega
  · split <;> omega

/-- Each residue stands for a number of the type that has it. -/
theorem ofResidue_spec (signed : Bool) {width k : Nat} (h : k < modulus width) :
    inRange signed width (ofResidue signed width k) = true ∧ ofResidue signed width k % modulus width = k := by
  rw [inRange_iff]
  unfold ofResidue
  generalize modulus width = m at h
  have hk : (k : Int) % m = k := Int.emod_eq_of_lt (by omega) (by omega)
  cases signed <;> simp only [Bool.false_eq_true, if_false, if_true, false_and, true_and]
  · exact ⟨by omega, hk⟩
  · split
    · exact ⟨by omega, by rw [Int.sub_emod_right, hk]⟩
    · exact ⟨by omega, hk⟩

/-! ## Reading -/

/-- Reading accepts the numbers of the type, each in one form. -/
theorem decode_accepts (signed : Bool) (width : Nat) :
    (decode signed width).Accepts fun n e => inRange signed width n = true ∧ e = encode width n := by
  refine (Decoder.map_accepts (Decoder.bytes_accepts width)).congr fun n e => ?_
  constructor
  · rintro ⟨bytes, ⟨rfl, rfl⟩, rfl⟩
    obtain ⟨hr, hm⟩ := ofResidue_spec signed (ofBytes_lt e)
    refine ⟨hr, ?_⟩
    rw [encode, hm, Int.toNat_natCast, toBytes_ofBytes]
  · rintro ⟨hr, rfl⟩
    refine ⟨encode width n, ⟨rfl, encode_length width n⟩, ?_⟩
    have hpos := modulus_pos width
    have hmod := Int.emod_nonneg n (show (modulus width : Int) ≠ 0 by omega)
    have hlt := Int.emod_lt_of_pos n (show (0 : Int) < modulus width by omega)
    rw [encode, ofBytes_toBytes, Nat.mod_eq_of_lt (by omega), ofResidue_emod hr]

end SolidityWire.Integer
