/-
The length prefix as a format of its own. Anywhere among bytes, a number of at most 64 bits is read from its shortest
form, which has one to ten bytes, and from no other form. What is no length is refused for one of three reasons: the
bytes end inside it, its last group says nothing, or its tenth byte has more than one bit.
-/
import SolidityWire.Proofs.Wire.Length

namespace SolidityWire

theorem Cursor.at?_natCast {bytes : List UInt8} {offset : Nat} (h : offset ≤ bytes.length) :
    at? (offset : Int) bytes = .ok ⟨offset, bytes.drop offset⟩ := by
  unfold at?
  rw [if_pos (by omega), Int.toNat_natCast]

namespace Length

/-! ## The shortest form -/

theorem encodeValue_natCast (n : Nat) : encodeValue (.integer n) = .ok (encode n) := by
  unfold encodeValue
  simp only [Value.compareWhole?, Value.wholeNumber?, Option.map_some]
  cases hsign : compare (n : Int) 0 with
  | lt =>
    rw [Int.compare_eq_lt] at hsign
    omega
  | eq => rfl
  | gt => rfl

theorem encode_length_pos (n : Nat) : 1 ≤ (encode n).length := by
  rw [encode]
  split <;> simp

/-- Each group has seven bits. -/
theorem encode_length_le : ∀ {groups n : Nat}, n < 128 ^ (groups + 1) → (encode n).length ≤ groups + 1
  | 0, n, h => by
    rw [encode_of_lt (by simpa using h)]
    exact Nat.le_refl 1
  | groups + 1, n, h => by
    rcases Nat.lt_or_ge n 128 with hn | hn
    · rw [encode_of_lt hn]
      simp
    · have hrest : n / 128 < 128 ^ (groups + 1) := by
        rw [Nat.div_lt_iff_lt_mul (by decide), ← Nat.pow_succ]
        exact h
      have ih := encode_length_le hrest
      rw [encode_of_le hn, List.length_cons]
      omega

/-! ## Refusals -/

/-- Why bytes are no length of which at most `groups` groups are still to come, those before them having `shift`
bits: they end where each of them announces another one, a group after the first is zero and the last, or the last
one that there is place for has more than one bit. -/
inductive Refused (groups shift position : Nat) (bytes : List UInt8) : DecodeError → Prop
  | ended (few : bytes.length < groups) (announced : ∀ b ∈ bytes, 128 ≤ b) :
    Refused groups shift position bytes (.endOfInput (position + bytes.length))
  | padded {front back : List UInt8} (here : bytes = front ++ 0 :: back) (few : front.length < groups)
    (announced : ∀ b ∈ front, 128 ≤ b) (inner : 0 < shift + front.length) :
    Refused groups shift position bytes .paddedLength
  | overflowing {front back : List UInt8} {b : UInt8} (here : bytes = front ++ b :: back)
    (all : front.length + 1 = groups) (announced : ∀ b ∈ front, 128 ≤ b) (large : 1 < b) :
    Refused groups shift position bytes .lengthOverflow

section Refusals

variable {groups shift position : Nat} {b : UInt8} {rest : List UInt8} {e : DecodeError}

theorem refused_nil_iff : Refused (groups + 1) shift position [] e ↔ e = .endOfInput position := by
  constructor
  · intro h
    cases h with
    | ended => rfl
    | padded here => simp at here
    | overflowing here => simp at here
  · rintro rfl
    exact .ended (by simp) (fun _ h => nomatch h)

/-- A group that announces another one is passed. -/
theorem refused_announced_iff (hb : 128 ≤ b) : Refused (groups + 2) shift position (b :: rest) e ↔
    Refused (groups + 1) (shift + 7) (position + 1) rest e := by
  have hne : b ≠ 0 := by
    rintro rfl
    exact absurd hb (by decide)
  constructor
  · intro h
    cases h with
    | ended few announced =>
      rw [List.length_cons, Nat.add_comm rest.length, ← Nat.add_assoc]
      exact .ended (by simpa using few) (List.forall_mem_cons.1 announced).2
    | @padded front back here few announced _ =>
      cases front with
      | nil => exact absurd (List.cons.inj here).1 hne
      | cons b' front =>
        obtain ⟨rfl, hrest⟩ := List.cons.inj here
        exact .padded hrest (by simpa using few) (List.forall_mem_cons.1 announced).2 (by omega)
    | @overflowing front back b' here all announced large =>
      cases front with
      | nil => exact absurd all (by simp)
      | cons b'' front =>
        obtain ⟨rfl, hrest⟩ := List.cons.inj here
        exact .overflowing hrest (by simpa using all) (List.forall_mem_cons.1 announced).2 large
  · intro h
    cases h with
    | ended few announced =>
      rw [Nat.add_assoc, Nat.add_comm 1]
      exact .ended (by simpa using few) (List.forall_mem_cons.2 ⟨hb, announced⟩)
    | @padded front back here few announced _ =>
      exact .padded (show b :: rest = (b :: front) ++ 0 :: back from congrArg (b :: ·) here) (by simpa using few)
        (List.forall_mem_cons.2 ⟨hb, announced⟩) (by rw [List.length_cons]; omega)
    | @overflowing front back b' here all announced large =>
      exact .overflowing (show b :: rest = (b :: front) ++ b' :: back from congrArg (b :: ·) here) (by simpa using all)
        (List.forall_mem_cons.2 ⟨hb, announced⟩) large

/-- A group that announces none is the last one. -/
theorem refused_last_iff (hb : b < 128) : Refused (groups + 1) shift position (b :: rest) e ↔
    (b = 0 ∧ 0 < shift ∧ e = .paddedLength) ∨ (groups = 0 ∧ 1 < b ∧ e = .lengthOverflow) := by
  have hlast : ∀ {front : List UInt8}, ¬∀ b' ∈ b :: front, 128 ≤ b' := fun h =>
    UInt8.not_lt.2 (h b List.mem_cons_self) hb
  constructor
  · intro h
    cases h with
    | ended _ announced => exact absurd announced hlast
    | @padded front back here _ announced inner =>
      cases front with
      | nil => exact Or.inl ⟨(List.cons.inj here).1, by simpa using inner, rfl⟩
      | cons b' front =>
        obtain ⟨rfl, -⟩ := List.cons.inj here
        exact absurd announced hlast
    | @overflowing front back b' here all announced large =>
      cases front with
      | nil =>
        obtain ⟨rfl, -⟩ := List.cons.inj here
        exact Or.inr ⟨by simpa using all.symm, large, rfl⟩
      | cons b'' front =>
        obtain ⟨rfl, -⟩ := List.cons.inj here
        exact absurd announced hlast
  · rintro (⟨rfl, hshift, rfl⟩ | ⟨rfl, hlarge, rfl⟩)
    · exact .padded (show 0 :: rest = [] ++ 0 :: rest from rfl) (by simp) (fun _ h => nomatch h) (by simpa using hshift)
    · exact .overflowing (show b :: rest = [] ++ b :: rest from rfl) rfl (fun _ h => nomatch h) hlarge

theorem decodeGroups_cons (groups shift value position : Nat) (b : UInt8) (rest : List UInt8) :
    decodeGroups (groups + 1) shift value ⟨position, b :: rest⟩ =
      (if shift = 63 ∧ b > 1 then Decoder.refuse .lengthOverflow
      else if b < 128 then
        if b = 0 ∧ shift > 0 then Decoder.refuse .paddedLength
        else Decoder.give (value + b.toNat % 128 * 2 ^ shift)
      else decodeGroups groups (shift + 7) (value + b.toNat % 128 * 2 ^ shift)) ⟨position + 1, rest⟩ := rfl

/-- The groups of a length are refused for these reasons, of which there is at most one. -/
theorem decodeGroups_eq_error : ∀ {groups shift value position : Nat} {bytes : List UInt8},
    shift + 7 * (groups + 1) = 70 → ((decodeGroups (groups + 1) shift value ⟨position, bytes⟩).1 = .error e ↔
      Refused (groups + 1) shift position bytes e)
  | groups, shift, value, position, [], _ => by
    rw [refused_nil_iff]
    exact ⟨fun h => (Except.error.inj h).symm, fun h => congrArg Except.error h.symm⟩
  | groups, shift, value, position, b :: rest, hs => by
    -- there is place for one group exactly if 63 bits have been read
    have hplace : groups = 0 ↔ shift = 63 := by omega
    rw [decodeGroups_cons]
    by_cases hb : b < 128
    · rw [refused_last_iff hb, hplace]
      by_cases hlarge : shift = 63 ∧ b > 1
      · have hne : b ≠ 0 := by
          rintro rfl
          exact absurd hlarge.2 (by decide)
        rw [if_pos hlarge]
        simp [Decoder.refuse, hlarge.1, hlarge.2, hne, eq_comm]
      · rw [if_neg hlarge, if_pos hb]
        by_cases hzero : b = 0 ∧ shift > 0
        · rw [if_pos hzero]
          simp [Decoder.refuse, hzero.1, hzero.2, eq_comm]
        · rw [if_neg hzero]
          simp only [Decoder.give, reduceCtorEq, false_iff]
          rintro (⟨h0, hshift, -⟩ | ⟨hshift, h1, -⟩)
          · exact hzero ⟨h0, hshift⟩
          · exact hlarge ⟨hshift, h1⟩
    · have hannounced : 128 ≤ b := UInt8.not_lt.1 hb
      cases groups with
      | zero =>
        -- the last group cannot announce another one
        have hlarge : shift = 63 ∧ b > 1 := ⟨by omega, UInt8.lt_of_lt_of_le (by decide) hannounced⟩
        rw [if_pos hlarge]
        constructor
        · intro h
          cases h
          exact .overflowing (show b :: rest = [] ++ b :: rest from rfl) rfl (fun _ h => nomatch h) hlarge.2
        · intro h
          cases h with
          | ended few => simp at few
          | @padded front back here few =>
            obtain rfl : front = [] := by simpa using few
            exact absurd ((List.cons.inj here).1 ▸ hlarge.2) (by decide)
          | overflowing => rfl
      | succ groups =>
        rw [if_neg (by omega), if_neg hb, refused_announced_iff hannounced]
        exact decodeGroups_eq_error (by omega)

end Refusals

/-! ## Lengths at an offset -/

theorem decodeAt_eq {bytes : List UInt8} {offset : Nat} (h : offset ≤ bytes.length) :
    decodeAt offset bytes = match decode ⟨offset, bytes.drop offset⟩ with
      | (.ok n, cur) => .ok (n, cur.position - offset)
      | (.error e, _) => .error e := by
  unfold decodeAt
  rw [Cursor.at?_natCast h]
  rfl

theorem decodeAt_eq_ok {bytes : List UInt8} {offset n used : Nat} (h : offset ≤ bytes.length) :
    decodeAt offset bytes = .ok (n, used) ↔
      n < 2 ^ 64 ∧ used = (encode n).length ∧ (bytes.drop offset).take used = encode n := by
  have hread : ∀ cur, decode ⟨offset, bytes.drop offset⟩ = (.ok n, cur) ↔ n < 2 ^ 64 ∧ encode n <+: bytes.drop offset ∧
      cur = ⟨offset + (encode n).length, bytes.drop (offset + (encode n).length)⟩ := fun cur => by
    rw [decode_accepts.drop_iff]
    constructor
    · rintro ⟨_, ⟨hlt, rfl⟩, hfront, hcur⟩
      exact ⟨hlt, hfront, hcur⟩
    · rintro ⟨hlt, hfront, hcur⟩
      exact ⟨_, ⟨hlt, rfl⟩, hfront, hcur⟩
  rw [decodeAt_eq h]
  constructor
  · intro hgiven
    split at hgiven
    · rename_i n' cur hn
      obtain ⟨rfl, rfl⟩ := Prod.mk.inj (Except.ok.inj hgiven)
      obtain ⟨hlt, hfront, rfl⟩ := (hread cur).1 hn
      have hused : offset + (encode n').length - offset = (encode n').length := Nat.add_sub_cancel_left ..
      exact ⟨hlt, hused, by rw [hused]; exact (List.prefix_iff_eq_take.1 hfront).symm⟩
    · cases hgiven
  · rintro ⟨hlt, rfl, htake⟩
    rw [(hread _).2 ⟨hlt, List.prefix_iff_eq_take.2 htake.symm, rfl⟩]
    simp

/-- A length is written in its shortest form, of one to ten bytes, and read from it behind any bytes and before
any others. Whatever else is read at an offset of bytes is the shortest form of a number of at most 64 bits, and
what is not read is refused: because it ends too early, is padded or goes beyond 64 bits. -/
theorem decodeAt_canonical :
    (∀ n : Nat, n < 2 ^ 64 → encodeValue (.integer n) = .ok (encode n) ∧
      1 ≤ (encode n).length ∧ (encode n).length ≤ 10 ∧
      ∀ before after : List UInt8,
        decodeAt before.length (before ++ encode n ++ after) = .ok (n, (encode n).length)) ∧
    (∀ (bytes : List UInt8) (offset : Nat), offset ≤ bytes.length →
      (∀ n used, decodeAt offset bytes = .ok (n, used) ↔
        n < 2 ^ 64 ∧ used = (encode n).length ∧ (bytes.drop offset).take used = encode n) ∧
      (∀ e, decodeAt offset bytes = .error e ↔ Refused 10 0 offset (bytes.drop offset) e)) := by
  constructor
  · intro n hn
    have hbits : n < 128 ^ (9 + 1) := Nat.lt_trans hn (by decide)
    refine ⟨encodeValue_natCast n, encode_length_pos n, encode_length_le hbits, fun before after => ?_⟩
    rw [decodeAt_eq_ok (by simp)]
    refine ⟨hn, rfl, ?_⟩
    rw [List.append_assoc, List.drop_left, List.take_left]
  · intro bytes offset h
    refine ⟨fun n used => decodeAt_eq_ok h, fun e => ?_⟩
    rw [← decodeGroups_eq_error rfl, decodeAt_eq h]
    change _ ↔ (decode ⟨offset, bytes.drop offset⟩).1 = .error e
    rcases decode ⟨offset, bytes.drop offset⟩ with ⟨_ | _, _⟩ <;> simp

/-- The length 300 stands between other bytes in two bytes; with a third one, which says nothing, it is refused. -/
theorem decodeAt_canonical_inside :
    (300 < 2 ^ 64 ∧ decodeAt 1 [7, 0xAC, 0x02, 9] = .ok (300, 2)) ∧
    1 ≤ [7, 0xAC, 0x82, 0].length ∧ decodeAt 1 [7, 0xAC, 0x82, 0] = .error .paddedLength := by
  have hencode : encode 300 = [0xAC, 0x02] := by
    rw [encode_of_le (by decide), encode_of_lt (by decide)]
    rfl
  have hread := (decodeAt_canonical.1 300 (by decide)).2.2.2 [7] [9]
  rw [hencode] at hread
  refine ⟨⟨by decide, hread⟩, by decide, ?_⟩
  refine ((decodeAt_canonical.2 [7, 0xAC, 0x82, 0] 1 (by decide)).2 _).2 ?_
  exact .padded (show [0xAC, 0x82, 0] = [0xAC, 0x82] ++ 0 :: [] from rfl) (by decide) (by simp) (by decide)

end Length

end SolidityWire
