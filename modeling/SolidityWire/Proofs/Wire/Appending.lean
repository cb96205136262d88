/-
Runs of writing. A step appends the bytes that it writes to an empty output, or it is refused and appends nothing,
though a text and a byte string go out in two parts: whatever can be refused is refused before the first part. So at
any time there stand the codes of the steps that have succeeded, one after the other. Integers are appended in two's
complement, the least significant byte first.
-/
import SolidityWire.Proofs.Wire.Integer
import SolidityWire.Wire.Step

namespace SolidityWire

/-! ## Integers in two's complement -/

namespace Integer

/-- The integer type of a sign and a number of bits has the number. -/
def Fits (signed : Bool) (bits : Nat) (n : Int) : Prop :=
  if signed then -2 ^ (bits - 1) ≤ n ∧ n < 2 ^ (bits - 1) else 0 ≤ n ∧ n < 2 ^ bits

/-- The bytes of a number in two's complement, the one with its lowest eight bits first. -/
def littleEndian (width : Nat) (n : Int) : List UInt8 :=
  List.ofFn fun i : Fin width => .ofBitVec ((BitVec.ofInt (8 * width) n).extractLsb' (8 * i) 8)

theorem modulus_eq (width : Nat) : modulus width = 2 ^ (8 * width) := by
  rw [modulus, Nat.pow_mul]

theorem inRange_iff_fits {signed : Bool} {width : Nat} {n : Int} (h : 0 < width) :
    inRange signed width n = true ↔ Fits signed (8 * width) n := by
  have hmodulus : (modulus width : Int) = 2 ^ (8 * width) := by
    rw [modulus_eq, Int.natCast_pow]
    rfl
  have hhalf : (2 : Int) ^ (8 * width) = 2 * 2 ^ (8 * width - 1) := by
    rw [← Int.pow_succ']
    congr 1
    omega
  rw [inRange_iff, hmodulus, Fits]
  cases signed with
  | false => rfl
  | true =>
    simp only [if_true, hhalf]
    omega

theorem getElem_toBytes : ∀ {width n i : Nat} (h : i < (toBytes width n).length),
    (toBytes width n)[i] = (n / 256 ^ i).toUInt8
  | _ + 1, n, 0, _ => by rw [Nat.pow_zero, Nat.div_one]; rfl
  | width + 1, n, i + 1, h => by
    refine (@getElem_toBytes width (n / 256) i (Nat.lt_of_succ_lt_succ h)).trans ?_
    rw [Nat.div_div_eq_div_mul, Nat.pow_succ, Nat.mul_comm]

theorem encode_eq_littleEndian (width : Nat) (n : Int) : encode width n = littleEndian width n := by
  refine List.ext_getElem (by rw [encode_length, littleEndian, List.length_ofFn]) fun i h h' => ?_
  have hpow : 2 ^ (8 * i) = 256 ^ i := by rw [Nat.pow_mul]
  rw [← UInt8.toNat_inj]
  simp only [encode, getElem_toBytes, littleEndian, List.getElem_ofFn, UInt8.toNat_ofBitVec, BitVec.extractLsb'_toNat,
    BitVec.toNat_ofInt, Nat.shiftRight_eq_div_pow, hpow, modulus_eq, Nat.toUInt8, UInt8.toNat_ofNat']

example : encode 2 (-2) = [0xFE, 0xFF] := by decide

end Integer

/-- The value is an integer: a number, or a member, which is its ordinal. A truth value is none. -/
inductive Value.IsInteger : Value → Int → Prop
  | integer (n : Int) : IsInteger (.integer n) n
  | member (key name : String) (ordinal : Nat) : IsInteger (.member key name ordinal) ordinal

namespace Wire

theorem encodeInteger_eq_ok {signed : Bool} {width : IntWidth} {v : Value} {e : List UInt8} :
    encodeInteger signed width v = .ok e ↔
      ∃ n, v.IsInteger n ∧ Integer.inRange signed width.bytes n = true ∧ e = Integer.encode width.bytes n := by
  have hnumber : ∀ n : Int, (if Integer.inRange signed width.bytes n then .ok (Integer.encode width.bytes n)
      else .error (.outOfRange signed width n) : Except EncodeError (List UInt8)) = .ok e ↔
        Integer.inRange signed width.bytes n = true ∧ e = Integer.encode width.bytes n := by
    intro n
    cases Integer.inRange signed width.bytes n <;> simp [eq_comm]
  constructor
  · intro h
    cases v with
    | integer n => exact ⟨n, .integer n, (hnumber n).1 h⟩
    | member key name ordinal => exact ⟨ordinal, .member key name ordinal, (hnumber ordinal).1 h⟩
    | _ => cases h
  · rintro ⟨n, hn, h⟩
    cases hn with
    | integer n => exact (hnumber n).2 h
    | member key name ordinal => exact (hnumber ordinal).2 h

namespace Step

/-! ## One step -/

/-- A step appends what it writes by itself, or it is refused as it is by itself and appends nothing. -/
theorem write_appends (s : Step) (v : Value) :
    (∃ data, s.write v {} = (.ok (), ⟨data⟩) ∧ ∀ o, s.write v o = (.ok (), ⟨o.bytes ++ data⟩)) ∨
      ∃ e, s.write v {} = (.error e, {}) ∧ ∀ o, s.write v o = (.error e, o) := by
  rw [write_eq]
  cases s.encode v with
  | ok data => exact Or.inl ⟨data, rfl, fun _ => rfl⟩
  | error e => exact Or.inr ⟨e, rfl, fun _ => rfl⟩

theorem write_integer {signed : Bool} {width : IntWidth} {v : Value} {o o' : Output} :
    (primitive (.integer signed width)).write v o = (.ok (), o') ↔
      ∃ n, v.IsInteger n ∧ Integer.Fits signed (8 * width.bytes) n ∧
        o' = ⟨o.bytes ++ Integer.littleEndian width.bytes n⟩ := by
  have hwidth : 0 < width.bytes := by cases width <;> decide
  have hput : (primitive (.integer signed width)).write v o = (.ok (), o') ↔
      ∃ data, encodeInteger signed width v = .ok data ∧ o' = o.put data := by
    change o.putEncoded (encodeInteger signed width v) = _ ↔ _
    cases encodeInteger signed width v <;> simp [Output.putEncoded, eq_comm]
  rw [hput]
  simp only [encodeInteger_eq_ok, Integer.inRange_iff_fits hwidth, Integer.encode_eq_littleEndian]
  constructor
  · rintro ⟨_, ⟨n, hn, hfits, rfl⟩, rfl⟩
    exact ⟨n, hn, hfits, rfl⟩
  · rintro ⟨n, hn, hfits, rfl⟩
    exact ⟨_, ⟨n, hn, hfits, rfl⟩, rfl⟩

/-! ## Runs -/

/-- What a step writes by itself, if it succeeds. -/
def alone? (s : Step) (v : Value) : Option (List UInt8) :=
  match s.write v {} with
  | (.ok (), o) => some o.bytes
  | (.error _, _) => none

/-- What the steps that succeed write by themselves, one after the other. -/
def codes (steps : List (Step × Value)) : List UInt8 :=
  (steps.filterMap fun step => step.1.alone? step.2).flatten

theorem codes_cons (s : Step) (v : Value) (rest : List (Step × Value)) :
    codes ((s, v) :: rest) = (s.alone? v).getD [] ++ codes rest := by
  unfold codes
  rw [List.filterMap_cons]
  dsimp only
  cases s.alone? v <;> rfl

theorem write_eq_alone (s : Step) (v : Value) (o : Output) :
    s.write v o = ((s.write v {}).1, ⟨o.bytes ++ (s.alone? v).getD []⟩) := by
  unfold alone?
  rcases write_appends s v with ⟨data, halone, h⟩ | ⟨e, halone, h⟩
  · rw [h, halone]
    rfl
  · rw [h, halone]
    exact congrArg (Prod.mk _) (congrArg Output.mk (List.append_nil o.bytes).symm)

/-- After each step of a run there stands behind what was there before what the steps up to it write by themselves. -/
theorem writeAll_eq_mapIdx : ∀ (o : Output) (steps : List (Step × Value)),
    writeAll o steps = steps.mapIdx fun i (s, v) => ((s.write v {}).1, ⟨o.bytes ++ codes (steps.take (i + 1))⟩)
  | _, [] => rfl
  | o, (s, v) :: rest => by
    rw [writeAll, List.mapIdx_cons, write_eq_alone, writeAll_eq_mapIdx]
    simp only [List.take_succ_cons, codes_cons, List.append_assoc, List.take_zero]
    rw [show codes [] = [] from rfl, List.append_nil]

/-- Whatever is given to a step, it appends exactly what it writes to an empty output, or it is refused and appends
nothing; so after each step of a run there stand the codes of the steps that have succeeded by then, one after the
other. A step for integers succeeds exactly on the integers of its type, and appends their two's complement. -/
theorem writes_additive :
    (∀ (s : Step) (v : Value),
      (∃ data, s.write v {} = (.ok (), ⟨data⟩) ∧ ∀ o, s.write v o = (.ok (), ⟨o.bytes ++ data⟩)) ∨
        ∃ e, s.write v {} = (.error e, {}) ∧ ∀ o, s.write v o = (.error e, o)) ∧
    (∀ steps : List (Step × Value), writeAll {} steps =
      steps.mapIdx fun i (s, v) => ((s.write v {}).1, ⟨codes (steps.take (i + 1))⟩)) ∧
    ∀ (signed : Bool) (width : IntWidth) (v : Value) (o o' : Output),
      (primitive (.integer signed width)).write v o = (.ok (), o') ↔
        ∃ n, v.IsInteger n ∧ Integer.Fits signed (8 * width.bytes) n ∧
          o' = ⟨o.bytes ++ Integer.littleEndian width.bytes n⟩ :=
  ⟨write_appends, writeAll_eq_mapIdx {}, fun _ _ _ _ _ => write_integer⟩

end Step

end Wire

end SolidityWire
