/-
UTF-8 and the count of its characters. Main statements: the strict decoder gives back what was
encoded and accepts nothing else, so that the bytes of a text are those that decode to it; and
stepping from lead byte to lead byte crosses exactly the bytes of the characters that were counted.
-/
import SolidityWire.Wire.Primitive

namespace SolidityWire.Text.Utf8

/-! ## Bytes and characters as numbers -/

theorem toNat_toUInt8 {n : Nat} (h : n < 256) : n.toUInt8.toNat = n := by
  rw [Nat.toUInt8, UInt8.toNat_ofNat']; exact Nat.mod_eq_of_lt h

theorem toUInt8_toNat (b : UInt8) : b.toNat.toUInt8 = b := by
  rw [Nat.toUInt8]; exact UInt8.ofNat_toNat

theorem toNat_charOfNat {n : Nat} (h : n < 0xD800 ∨ 0xE000 ≤ n ∧ n < 0x110000) : (Char.ofNat n).toNat = n := by
  have valid : n.isValidChar := by unfold Nat.isValidChar; omega
  rw [Char.ofNat, dif_pos valid]; rfl

theorem toNat_bounds (c : Char) : c.toNat < 0xD800 ∨ 0xE000 ≤ c.toNat ∧ c.toNat < 0x110000 := by
  have h : c.toNat.isValidChar := c.valid
  unfold Nat.isValidChar at h; omega

theorem isContinuation_toUInt8 {n : Nat} (h : n < 256) :
    isContinuation n.toUInt8 = decide (0x80 ≤ n ∧ n < 0xC0) := by
  unfold isContinuation
  simp only [UInt8.le_iff_toNat_le, UInt8.lt_iff_toNat_lt, toNat_toUInt8 h, Bool.decide_and]
  rfl

theorem isContinuation_tail (m : Nat) : isContinuation (0x80 + m % 64).toUInt8 = true := by
  rw [isContinuation_toUInt8 (by omega), decide_eq_true_eq]; omega

theorem payload_tail (m : Nat) : payload (0x80 + m % 64).toUInt8 = m % 64 := by
  unfold payload; rw [toNat_toUInt8 (by omega)]; omega

theorem width_toUInt8 {n : Nat} (h : n < 256) :
    width n.toUInt8 = if n < 0x80 then 1 else if n < 0xE0 then 2 else if n < 0xF0 then 3 else 4 := by
  unfold width
  simp only [UInt8.lt_iff_toNat_lt, toNat_toUInt8 h]
  rfl

/-! ## One character -/

/-- A lead byte announces how many bytes its character has, and those behind it continue it. -/
theorem encodeChar_eq (c : Char) :
    ∃ lead tail, encodeChar c = lead :: tail ∧ isContinuation lead = false ∧
      (∀ b ∈ tail, isContinuation b = true) ∧ width lead = tail.length + 1 := by
  have hc := toNat_bounds c
  unfold encodeChar
  generalize c.toNat = n at hc
  have leadByte : ∀ m, m < 256 → (m < 0x80 ∨ 0xC0 ≤ m) → isContinuation m.toUInt8 = false := fun m h1 h2 => by
    rw [isContinuation_toUInt8 h1, decide_eq_false_iff_not]; omega
  simp only
  split
  · exact ⟨_, [], rfl, leadByte _ (by omega) (by omega), by simp,
      by rw [width_toUInt8 (by omega), if_pos (by omega)]; rfl⟩
  split
  · exact ⟨_, _, rfl, leadByte _ (by omega) (by omega), by simp only [List.forall_mem_cons, isContinuation_tail]; simp,
      by rw [width_toUInt8 (by omega), if_neg (by omega), if_pos (by omega)]; rfl⟩
  split
  · exact ⟨_, _, rfl, leadByte _ (by omega) (by omega), by simp only [List.forall_mem_cons, isContinuation_tail]; simp,
      by rw [width_toUInt8 (by omega), if_neg (by omega), if_neg (by omega), if_pos (by omega)]; rfl⟩
  · exact ⟨_, _, rfl, leadByte _ (by omega) (by omega), by simp only [List.forall_mem_cons, isContinuation_tail]; simp,
      by rw [width_toUInt8 (by omega), if_neg (by omega), if_neg (by omega), if_neg (by omega)]; rfl⟩

theorem isScalarFrom_iff {least n : Nat} :
    isScalarFrom least n = true ↔ least ≤ n ∧ (n < 0xD800 ∨ 0xE000 ≤ n ∧ n < 0x110000) := by
  simp [isScalarFrom]

/-! ## The decoder on one character -/

theorem decode?_one {a : UInt8} (ha : a.toNat < 0x80) (rest : List UInt8) :
    decode? (a :: rest) = (decode? rest).map (Char.ofNat a.toNat :: ·) := by
  rw [decode?.eq_def]
  simp only [UInt8.lt_iff_toNat_lt, UInt8.reduceToNat]
  rw [if_pos ha]

theorem decode?_two {a b : UInt8} (ha : 0xC2 ≤ a.toNat ∧ a.toNat < 0xE0) (hb : isContinuation b = true)
    (rest : List UInt8) :
    decode? (a :: b :: rest) =
      (decode? rest).map (Char.ofNat ((a.toNat - 0xC0) * 64 + payload b) :: ·) := by
  rw [decode?.eq_def]
  simp only [UInt8.lt_iff_toNat_lt, UInt8.reduceToNat, hb]
  rw [if_neg (by omega), if_neg (by simp; omega), if_pos ha.2]

theorem decode?_three {a b c : UInt8} (ha : 0xE0 ≤ a.toNat ∧ a.toNat < 0xF0) (hb : isContinuation b = true)
    (hc : isContinuation c = true) (rest : List UInt8)
    (h : isScalarFrom 0x800 ((a.toNat - 0xE0) * 4096 + payload b * 64 + payload c) = true) :
    decode? (a :: b :: c :: rest) =
      (decode? rest).map (Char.ofNat ((a.toNat - 0xE0) * 4096 + payload b * 64 + payload c) :: ·) := by
  rw [decode?.eq_def]
  simp only [UInt8.lt_iff_toNat_lt, UInt8.reduceToNat, hb, hc, h, if_true]
  rw [if_neg (by omega), if_neg (by simp; omega), if_neg (by omega), if_neg (by simp), if_pos ha.2]

theorem decode?_four {a b c d : UInt8} (ha : 0xF0 ≤ a.toNat ∧ a.toNat < 0xF8) (hb : isContinuation b = true)
    (hc : isContinuation c = true) (hd : isContinuation d = true) (rest : List UInt8)
    (h : isScalarFrom 0x10000
      ((a.toNat - 0xF0) * 262144 + payload b * 4096 + payload c * 64 + payload d) = true) :
    decode? (a :: b :: c :: d :: rest) =
      (decode? rest).map
        (Char.ofNat ((a.toNat - 0xF0) * 262144 + payload b * 4096 + payload c * 64 + payload d) :: ·) := by
  rw [decode?.eq_def]
  simp only [UInt8.lt_iff_toNat_lt, UInt8.reduceToNat, hb, hc, hd, h]
  rw [if_neg (by omega), if_neg (by simp; omega), if_neg (by omega), if_neg (by simp), if_neg (by omega),
    if_pos (by simpa using ha.2)]

/-- The decoder takes an encoded character off the front of any bytes. -/
theorem decode?_encodeChar_append (c : Char) (rest : List UInt8) :
    decode? (encodeChar c ++ rest) = (decode? rest).map (c :: ·) := by
  have hc := toNat_bounds c
  have he : Char.ofNat c.toNat = c := Char.ofNat_toNat c
  unfold encodeChar
  generalize c.toNat = n at hc he
  simp only
  split
  · rw [List.singleton_append, decode?_one (by rw [toNat_toUInt8 (by omega)]; omega), toNat_toUInt8 (by omega), he]
  split
  · have ha := toNat_toUInt8 (show 0xC0 + n / 64 < 256 by omega)
    rw [List.cons_append, List.singleton_append, decode?_two (by omega) (isContinuation_tail n), payload_tail, ha,
      show (0xC0 + n / 64 - 0xC0) * 64 + n % 64 = n by omega, he]
  split
  · have ha := toNat_toUInt8 (show 0xE0 + n / 4096 < 256 by omega)
    have hn : (0xE0 + n / 4096 - 0xE0) * 4096 + n / 64 % 64 * 64 + n % 64 = n := by omega
    rw [List.cons_append, List.cons_append, List.singleton_append,
      decode?_three (by omega) (isContinuation_tail _) (isContinuation_tail _) rest, payload_tail, payload_tail, ha,
      hn, he]
    rw [payload_tail, payload_tail, ha, hn]
    exact isScalarFrom_iff.2 ⟨by omega, by omega⟩
  · have ha := toNat_toUInt8 (show 0xF0 + n / 262144 < 256 by omega)
    have hn : (0xF0 + n / 262144 - 0xF0) * 262144 + n / 4096 % 64 * 4096 + n / 64 % 64 * 64 + n % 64 = n := by omega
    rw [List.cons_append, List.cons_append, List.cons_append, List.singleton_append,
      decode?_four (by omega) (isContinuation_tail _) (isContinuation_tail _) (isContinuation_tail _) rest,
      payload_tail, payload_tail, payload_tail, ha, hn, he]
    rw [payload_tail, payload_tail, payload_tail, ha, hn]
    exact isScalarFrom_iff.2 ⟨by omega, by omega⟩

theorem isContinuation_iff {b : UInt8} : isContinuation b = true ↔ 0x80 ≤ b.toNat ∧ b.toNat < 0xC0 := by
  simp [isContinuation, UInt8.le_iff_toNat_le, UInt8.lt_iff_toNat_lt]

/-- A continuation byte is what its payload makes it. -/
theorem tail_payload {b : UInt8} (hb : isContinuation b = true) :
    payload b < 64 ∧ (0x80 + payload b).toUInt8 = b := by
  have h := isContinuation_iff.1 hb
  unfold payload
  exact ⟨by omega, by rw [show 0x80 + (b.toNat - 0x80) = b.toNat by omega, toUInt8_toNat]⟩

section Bytes

variable {a b c d : UInt8}

theorem encodeChar_one (ha : a.toNat < 0x80) : encodeChar (Char.ofNat a.toNat) = [a] := by
  unfold encodeChar
  rw [toNat_charOfNat (by omega)]
  simp only
  rw [if_pos ha, toUInt8_toNat]

theorem encodeChar_two (ha : 0xC2 ≤ a.toNat ∧ a.toNat < 0xE0) (hb : isContinuation b = true) :
    encodeChar (Char.ofNat ((a.toNat - 0xC0) * 64 + payload b)) = [a, b] := by
  obtain ⟨hb1, hb2⟩ := tail_payload hb
  unfold encodeChar
  rw [toNat_charOfNat (by omega)]
  simp only
  rw [if_neg (by omega), if_pos (by omega),
    show 0xC0 + ((a.toNat - 0xC0) * 64 + payload b) / 64 = a.toNat by omega,
    show ((a.toNat - 0xC0) * 64 + payload b) % 64 = payload b by omega, hb2, toUInt8_toNat]

theorem encodeChar_three (ha : 0xE0 ≤ a.toNat ∧ a.toNat < 0xF0) (hb : isContinuation b = true)
    (hc : isContinuation c = true)
    (h : isScalarFrom 0x800 ((a.toNat - 0xE0) * 4096 + payload b * 64 + payload c) = true) :
    encodeChar (Char.ofNat ((a.toNat - 0xE0) * 4096 + payload b * 64 + payload c)) = [a, b, c] := by
  obtain ⟨hb1, hb2⟩ := tail_payload hb
  obtain ⟨hc1, hc2⟩ := tail_payload hc
  have hs := isScalarFrom_iff.1 h
  unfold encodeChar
  rw [toNat_charOfNat (by omega)]
  simp only
  rw [if_neg (by omega), if_neg (by omega), if_pos (by omega),
    show 0xE0 + ((a.toNat - 0xE0) * 4096 + payload b * 64 + payload c) / 4096 = a.toNat by omega,
    show ((a.toNat - 0xE0) * 4096 + payload b * 64 + payload c) / 64 % 64 = payload b by omega,
    show ((a.toNat - 0xE0) * 4096 + payload b * 64 + payload c) % 64 = payload c by omega, hb2, hc2, toUInt8_toNat]

theorem encodeChar_four (ha : 0xF0 ≤ a.toNat ∧ a.toNat < 0xF8) (hb : isContinuation b = true)
    (hc : isContinuation c = true) (hd : isContinuation d = true)
    (h : isScalarFrom 0x10000
      ((a.toNat - 0xF0) * 262144 + payload b * 4096 + payload c * 64 + payload d) = true) :
    encodeChar (Char.ofNat ((a.toNat - 0xF0) * 262144 + payload b * 4096 + payload c * 64 + payload d)) =
      [a, b, c, d] := by
  obtain ⟨hb1, hb2⟩ := tail_payload hb
  obtain ⟨hc1, hc2⟩ := tail_payload hc
  obtain ⟨hd1, hd2⟩ := tail_payload hd
  have hs := isScalarFrom_iff.1 h
  unfold encodeChar
  rw [toNat_charOfNat (by omega)]
  simp only
  rw [if_neg (by omega), if_neg (by omega), if_neg (by omega),
    show 0xF0 + ((a.toNat - 0xF0) * 262144 + payload b * 4096 + payload c * 64 + payload d) / 262144 = a.toNat
      by omega,
    show ((a.toNat - 0xF0) * 262144 + payload b * 4096 + payload c * 64 + payload d) / 4096 % 64 = payload b
      by omega,
    show ((a.toNat - 0xF0) * 262144 + payload b * 4096 + payload c * 64 + payload d) / 64 % 64 = payload c
      by omega,
    show ((a.toNat - 0xF0) * 262144 + payload b * 4096 + payload c * 64 + payload d) % 64 = payload d by omega,
    hb2, hc2, hd2, toUInt8_toNat]

end Bytes

/-- What the decoder accepts begins with an encoded character. -/
theorem exists_of_decode?_eq_some {bytes : List UInt8} {cs : List Char} (h : decode? bytes = some cs) :
    bytes = [] ∧ cs = [] ∨
      ∃ c cs' rest, bytes = encodeChar c ++ rest ∧ cs = c :: cs' ∧ decode? rest = some cs' := by
  have front : ∀ {c : Char} {code rest : List UInt8}, encodeChar c = code →
      (decode? rest).map (c :: ·) = some cs → ∃ c' cs' rest', code ++ rest = encodeChar c' ++ rest' ∧
        cs = c' :: cs' ∧ decode? rest' = some cs' := by
    rintro c _ rest rfl h
    obtain ⟨cs', hcs, rfl⟩ := Option.map_eq_some_iff.1 h
    exact ⟨c, cs', rest, rfl, rfl, hcs⟩
  rw [decode?.eq_def] at h
  simp only [UInt8.lt_iff_toNat_lt, UInt8.reduceToNat] at h
  -- the branches are the numbers of bytes that the first one announces
  split at h
  · exact Or.inl ⟨rfl, by simpa using h.symm⟩
  rename_i a rest
  refine Or.inr ?_
  split at h
  · exact front (encodeChar_one ‹_›) h
  split at h
  · cases h
  rename_i ha1 b rest
  split at h
  · cases h
  rename_i hab
  simp only [Bool.or_eq_true, decide_eq_true_eq, Bool.not_eq_true', not_or, Bool.not_eq_false] at hab
  obtain ⟨ha2, hb⟩ := hab
  split at h
  · exact front (encodeChar_two (by omega) hb) h
  rename_i ha3
  split at h
  · cases h
  rename_i c rest
  split at h
  · cases h
  rename_i hc
  simp only [Bool.not_eq_true', Bool.not_eq_false] at hc
  split at h
  · split at h
    · rename_i ha4 hn
      exact front (encodeChar_three (by omega) hb hc hn) h
    · cases h
  rename_i ha4
  split at h
  · cases h
  rename_i d rest
  split at h
  · rename_i hn
    simp only [Bool.and_eq_true, decide_eq_true_eq] at hn
    obtain ⟨⟨ha5, hd⟩, hn⟩ := hn
    exact front (encodeChar_four (by omega) hb hc hd hn) h
  · cases h

/-! ## Texts -/

theorem encode_cons (c : Char) (cs : List Char) : encode (c :: cs) = encodeChar c ++ encode cs := by
  unfold encode; rw [List.flatMap_cons]

theorem decode?_encode (cs : List Char) : decode? (encode cs) = some cs := by
  induction cs with
  | nil => rfl
  | cons c cs ih => rw [encode_cons, decode?_encodeChar_append, ih]; rfl

theorem eq_encode_of_decode? {bytes : List UInt8} {cs : List Char} (h : decode? bytes = some cs) :
    bytes = encode cs := by
  induction cs generalizing bytes with
  | nil =>
    rcases exists_of_decode?_eq_some h with ⟨rfl, -⟩ | ⟨c, cs', rest, -, hcs, -⟩
    · rfl
    · cases hcs
  | cons c cs ih =>
    rcases exists_of_decode?_eq_some h with ⟨-, hcs⟩ | ⟨c', cs', rest, rfl, hcs, hr⟩
    · cases hcs
    · cases hcs
      rw [encode_cons, ih hr]

/-- The bytes that the decoder accepts are those of a text, which is the result. -/
theorem decode?_eq_some_iff {bytes : List UInt8} {cs : List Char} : decode? bytes = some cs ↔ bytes = encode cs :=
  ⟨eq_encode_of_decode?, fun h => h ▸ decode?_encode cs⟩

/-- One byte of each character begins it. -/
theorem countCharacters_encode (cs : List Char) : countCharacters (encode cs) = cs.length := by
  induction cs with
  | nil => rfl
  | cons c cs ih =>
    obtain ⟨lead, tail, he, hl, ht, -⟩ := encodeChar_eq c
    have tailCount : tail.countP (!isContinuation ·) = 0 := by
      rw [List.countP_eq_zero]; intro b hb; simp [ht b hb]
    unfold countCharacters at ih ⊢
    rw [encode_cons, List.countP_append, ih, he, List.countP_cons, tailCount, List.length_cons]
    simp [hl]; omega

end SolidityWire.Text.Utf8

namespace SolidityWire.Wire

open Text

theorem width_pos (lead : UInt8) : 0 < Utf8.width lead := by
  unfold Utf8.width
  repeat' split
  all_goals decide

/-- The span of an encoded character and of the characters behind it. -/
theorem spanOf_encodeChar_append (n : Nat) (c : Char) (rest : List UInt8) :
    spanOf (n + 1) (Utf8.encodeChar c ++ rest) = (spanOf n rest).map ((Utf8.encodeChar c).length + ·) := by
  obtain ⟨lead, tail, he, -, -, hw⟩ := Utf8.encodeChar_eq c
  rw [he, List.cons_append, spanOf, hw, Nat.add_sub_cancel, List.drop_left, List.length_cons]

/-- As many characters as a text has span its bytes. -/
theorem spanOf_encode (cs : List Char) (rest : List UInt8) :
    spanOf cs.length (Utf8.encode cs ++ rest) = some (Utf8.encode cs).length := by
  induction cs with
  | nil => rfl
  | cons c cs ih =>
    rw [Utf8.encode_cons, List.append_assoc, List.length_cons, spanOf_encodeChar_append, ih, List.length_append]; rfl

/-- No other number of characters spans the bytes of a text. -/
theorem eq_length_of_spanOf {cs : List Char} {rest : List UInt8} {n : Nat}
    (h : spanOf n (Utf8.encode cs ++ rest) = some (Utf8.encode cs).length) : n = cs.length := by
  induction cs generalizing n with
  | nil =>
    cases n with
    | zero => rfl
    | succ n =>
      cases rest with
      | nil => cases h
      | cons lead rest =>
        obtain ⟨k, -, hk⟩ := Option.map_eq_some_iff.1 h
        have hw := width_pos lead
        change Utf8.width lead + k = 0 at hk
        omega
  | cons c cs ih =>
    rw [Utf8.encode_cons, List.append_assoc] at h
    cases n with
    | zero =>
      obtain ⟨lead, tail, he, -⟩ := Utf8.encodeChar_eq c
      rw [he] at h; simp [spanOf] at h
    | succ n =>
      rw [spanOf_encodeChar_append, List.length_append] at h
      obtain ⟨k, hk, e⟩ := Option.map_eq_some_iff.1 h
      have hn : n = cs.length := ih (by rw [hk, show k = (Utf8.encode cs).length by omega])
      rw [hn, List.length_cons]

end SolidityWire.Wire
