/-
How far reading goes. A step that fails has consumed what could be told apart before the failure: nothing of a value
of fixed width, the byte of a truth value, the bytes that a length takes up, the length in front of a text or of bytes
that go past the end, and all of a text that is none. So the place after a step follows from the bytes that come at
the place before it, and from nothing else; it only goes forward, and never past the end.
-/
import SolidityWire.Proofs.Wire.Forward
import SolidityWire.Proofs.Wire.Prefix
import SolidityWire.Proofs.Wire.Primitive
import SolidityWire.Proofs.Wire.Rejects
import SolidityWire.Wire.Step

namespace SolidityWire

open Text

/-! ## Lengths -/

namespace Length

/-- The number of bytes that a length takes up, be it a good one or not: those that announce another one, and the one
behind them, as long as there are some and at most `groups` of them. -/
def reach (groups : Nat) (bytes : List UInt8) : Nat :=
  min ((bytes.takeWhile (128 ≤ ·)).length + 1) (min groups bytes.length)

section Reach

variable {groups : Nat} {b : UInt8} {rest : List UInt8}

theorem reach_zero (bytes : List UInt8) : reach 0 bytes = 0 := by
  simp [reach]

theorem reach_nil (groups : Nat) : reach groups [] = 0 := by
  simp [reach]

theorem reach_last (hb : b < 128) : reach (groups + 1) (b :: rest) = 1 := by
  have hlast : decide (128 ≤ b) = false := decide_eq_false (UInt8.not_le.2 hb)
  rw [reach, List.takeWhile_cons, hlast, List.length_cons]
  simp only [Bool.false_eq_true, if_false, List.length_nil]
  omega

theorem reach_announced (hb : 128 ≤ b) : reach (groups + 1) (b :: rest) = reach groups rest + 1 := by
  rw [reach, reach, List.takeWhile_cons, decide_eq_true hb, List.length_cons]
  simp only [if_true, List.length_cons]
  omega

theorem reach_le (groups : Nat) (bytes : List UInt8) : reach groups bytes ≤ bytes.length :=
  Nat.le_trans (Nat.min_le_right ..) (Nat.min_le_right ..)

end Reach

/-- Whatever becomes of the groups of a length, the cursor stands behind the bytes that they take up. -/
theorem decodeGroups_cursor : ∀ {groups shift value position : Nat} {bytes : List UInt8}, shift + 7 * groups = 70 →
    (decodeGroups groups shift value ⟨position, bytes⟩).2 =
      ⟨position + reach groups bytes, bytes.drop (reach groups bytes)⟩
  | 0, _, _, _, bytes, _ => by
    rw [reach_zero]
    rfl
  | groups + 1, _, _, _, [], _ => by
    rw [reach_nil]
    rfl
  | groups + 1, shift, value, position, b :: rest, hs => by
    rw [decodeGroups_cons]
    by_cases hb : b < 128
    · rw [reach_last hb, if_pos hb]
      split
      · rfl
      · split <;> rfl
    · have hannounced : 128 ≤ b := UInt8.not_lt.1 hb
      rw [reach_announced hannounced, if_neg hb]
      cases groups with
      | zero =>
        -- the last group cannot announce another one
        rw [if_pos ⟨by omega, UInt8.lt_of_lt_of_le (by decide) hannounced⟩, reach_zero]
        rfl
      | succ groups =>
        rw [if_neg (by omega), decodeGroups_cursor (by omega), Nat.add_assoc, Nat.add_comm 1]
        rfl

theorem decode_rejects : decode.Rejects fun position bytes e used =>
    Refused 10 0 position bytes e ∧ used = reach 10 bytes := by
  intro position bytes e cur
  have hcursor : (decode ⟨position, bytes⟩).2 = ⟨position + reach 10 bytes, bytes.drop (reach 10 bytes)⟩ :=
    decodeGroups_cursor rfl
  have hreason : (decode ⟨position, bytes⟩).1 = .error e ↔ Refused 10 0 position bytes e := decodeGroups_eq_error rfl
  constructor
  · intro h
    rw [h] at hcursor hreason
    exact ⟨_, ⟨hreason.1 rfl, rfl⟩, hcursor⟩
  · rintro ⟨_, ⟨h, rfl⟩, rfl⟩
    exact Prod.ext (hreason.2 h) hcursor

end Length

namespace Wire

/-! ## Truth values and texts -/

theorem decodeBool_rejects : decodeBool.Rejects fun position bytes e used =>
    (bytes = [] ∧ e = .endOfInput position ∧ used = 0) ∨
      ∃ b rest, bytes = b :: rest ∧ 1 < b ∧ e = .invalidBool b.toNat position ∧ used = 1 := by
  have step : ∀ position, (Decoder.byte.andThen fun b =>
      if b > 1 then Decoder.refuse (.invalidBool b.toNat position) else Decoder.give (b == 1)).Rejects
        fun p bytes e used => (bytes = [] ∧ e = .endOfInput p ∧ used = 0) ∨
          ∃ b rest, bytes = b :: rest ∧ 1 < b ∧ e = .invalidBool b.toNat position ∧ used = 1 := fun position => by
    refine (@Decoder.andThen_rejects _ _ _ _ _ _ (fun b _ _ e more => 1 < b ∧ e = .invalidBool b.toNat position ∧
      more = 0) Decoder.byte_accepts Decoder.byte_rejects fun b => ?_).congr fun p bytes e used => or_congr_right ?_
    · split
      · rename_i hb
        exact (Decoder.refuse_rejects _).congr fun _ _ _ _ => ⟨fun h => ⟨hb, h⟩, fun h => h.2⟩
      · rename_i hb
        exact (Decoder.give_rejects _).congr fun _ _ _ _ => ⟨False.elim, fun h => hb h.1⟩
    · constructor
      · rintro ⟨b, _, back, _, rfl, rfl, ⟨hb, rfl, rfl⟩, rfl⟩
        exact ⟨b, back, rfl, hb, rfl, rfl⟩
      · rintro ⟨b, rest, rfl, hb, rfl, rfl⟩
        exact ⟨b, [b], rest, 0, rfl, rfl, ⟨hb, rfl, rfl⟩, rfl⟩
  exact fun position => step position position

/-- Going past `n` characters by the widths that their first bytes announce, one gets `size` bytes on, maybe past the
end. -/
inductive Spans : (n : Nat) → List UInt8 → (size : Nat) → Prop
  | none {bytes : List UInt8} : Spans 0 bytes 0
  | next {n size : Nat} {lead : UInt8} {rest : List UInt8} : Spans n (rest.drop (Utf8.width lead - 1)) size →
    Spans (n + 1) (lead :: rest) (Utf8.width lead + size)

theorem spanOf_eq_some_iff : ∀ {n size : Nat} {bytes : List UInt8}, spanOf n bytes = some size ↔ Spans n bytes size
  | 0, size, bytes => by
    constructor
    · intro h
      cases h
      exact .none
    · intro h
      cases h
      rfl
  | n + 1, size, [] => ⟨fun h => (nomatch h), fun h => (nomatch h)⟩
  | n + 1, size, lead :: rest => by
    rw [spanOf, Option.map_eq_some_iff]
    constructor
    · rintro ⟨size, h, rfl⟩
      exact .next (spanOf_eq_some_iff.1 h)
    · intro h
      cases h with
      | next h => exact ⟨_, spanOf_eq_some_iff.2 h, rfl⟩

theorem giveText_rejects (data : List UInt8) : (giveText data).Rejects fun _ _ e used =>
    (∀ cs, data ≠ Utf8.encode cs) ∧ e = .invalidUtf8 data ∧ used = 0 := by
  unfold giveText
  split
  · rename_i cs hcs
    exact (Decoder.give_rejects _).congr fun _ _ _ _ =>
      ⟨False.elim, fun h => h.1 cs (Utf8.decode?_eq_some_iff.1 hcs)⟩
  · rename_i hnone
    refine (Decoder.refuse_rejects _).congr fun _ _ _ _ => ⟨fun h => ⟨fun cs hcs => ?_, h⟩, fun h => h.2⟩
    exact nomatch hnone.symm.trans (Utf8.decode?_eq_some_iff.2 hcs)

/-- A text of a known number of bytes is refused where they end or are no text. -/
theorem text_rejects (size : Nat) :
    ((Decoder.bytes size).andThen giveText).Rejects fun position bytes e used =>
      (bytes.length < size ∧ e = .notEnough size position bytes.length ∧ used = 0) ∨
        (size ≤ bytes.length ∧ (∀ cs, bytes.take size ≠ Utf8.encode cs) ∧
          e = .invalidUtf8 (bytes.take size) ∧ used = size) := by
  refine (Decoder.andThen_rejects (Decoder.bytes_accepts size) (Decoder.bytes_rejects size) giveText_rejects).congr
    fun position bytes e used => or_congr_right ?_
  constructor
  · rintro ⟨data, _, back, _, ⟨rfl, rfl⟩, rfl, ⟨hnone, rfl, rfl⟩, rfl⟩
    rw [List.take_left]
    exact ⟨by simp, hnone, rfl, rfl⟩
  · rintro ⟨hsize, hnone, he, hused⟩
    have hlength : (bytes.take size).length = size := List.length_take_of_le hsize
    exact ⟨_, _, bytes.drop size, 0, ⟨rfl, hlength⟩, (List.take_append_drop size bytes).symm, ⟨hnone, he, rfl⟩,
      hused.trans hlength.symm⟩

theorem decodeCharacters_rejects (count : Nat) : (decodeCharacters count).Rejects fun position bytes e used =>
    ((∀ size, ¬Spans count bytes size) ∧ e = .stringPastEnd count ∧ used = 0) ∨
      ∃ size, Spans count bytes size ∧
        ((bytes.length < size ∧ e = .notEnough size position bytes.length ∧ used = 0) ∨
          (size ≤ bytes.length ∧ (∀ cs, bytes.take size ≠ Utf8.encode cs) ∧
            e = .invalidUtf8 (bytes.take size) ∧ used = size)) := by
  intro position bytes e cur
  unfold decodeCharacters
  dsimp only
  cases hspan : spanOf count bytes with
  | none =>
    have hnone : ∀ size, ¬Spans count bytes size := fun size h =>
      nomatch hspan.symm.trans (spanOf_eq_some_iff.2 h)
    constructor
    · intro h
      cases h
      exact ⟨0, Or.inl ⟨hnone, rfl, rfl⟩, rfl⟩
    · rintro ⟨_, ⟨-, rfl, rfl⟩ | ⟨size, h, -⟩, rfl⟩
      · rfl
      · exact absurd h (hnone size)
  | some size =>
    have hspans : Spans count bytes size := spanOf_eq_some_iff.1 hspan
    refine (text_rejects size position bytes e cur).trans (exists_congr fun used => and_congr_left fun _ => ?_)
    constructor
    · exact fun h => Or.inr ⟨size, hspans, h⟩
    · rintro (⟨hnone, -⟩ | ⟨size', h, hwhy⟩)
      · exact absurd hspans (hnone size)
      · -- the characters span one number of bytes only
        cases hspan.symm.trans (spanOf_eq_some_iff.2 h)
        exact hwhy

namespace Step

/-! ## Failures of one step -/

/-- Why a step fails on the bytes at a position, and how many of them it consumes. -/
inductive Fails (position : Nat) (bytes : List UInt8) : Step → DecodeError → Nat → Prop
  | fewBytes {signed : Bool} {width : IntWidth} (few : bytes.length < width.bytes) :
    Fails position bytes (primitive (.integer signed width)) (.notEnough width.bytes position bytes.length) 0
  | noByte {p : Primitive} (single : p = .char ∨ p = .bool) (none : bytes = []) :
    Fails position bytes (primitive p) (.endOfInput position) 0
  | noTruth {b : UInt8} {rest : List UInt8} (here : bytes = b :: rest) (other : 1 < b) :
    Fails position bytes (primitive .bool) (.invalidBool b.toNat position) 1
  | noLength {s : Step} {e : DecodeError} (counted : s = length ∨ s = primitive .string ∨ s = primitive .bytes)
    (refused : Length.Refused 10 0 position bytes e) : Fails position bytes s e (Length.reach 10 bytes)
  | bytesPastEnd {n : Nat} {rest : List UInt8} (small : isLength n) (here : bytes = Length.encode n ++ rest)
    (few : rest.length < n) : Fails position bytes (primitive .bytes)
      (.notEnough n (position + (Length.encode n).length : Nat) rest.length) (Length.encode n).length
  | textPastEnd {n : Nat} {rest : List UInt8} (small : isLength n) (here : bytes = Length.encode n ++ rest)
    (ended : ∀ size, ¬Spans n rest size) :
    Fails position bytes (primitive .string) (.stringPastEnd n) (Length.encode n).length
  | textCut {n size : Nat} {rest : List UInt8} (small : isLength n) (here : bytes = Length.encode n ++ rest)
    (spans : Spans n rest size) (few : rest.length < size) : Fails position bytes (primitive .string)
      (.notEnough size (position + (Length.encode n).length : Nat) rest.length) (Length.encode n).length
  | noText {n size : Nat} {rest : List UInt8} (small : isLength n) (here : bytes = Length.encode n ++ rest)
    (spans : Spans n rest size) (enough : size ≤ rest.length) (none : ∀ cs, rest.take size ≠ Utf8.encode cs) :
    Fails position bytes (primitive .string) (.invalidUtf8 (rest.take size)) ((Length.encode n).length + size)

section Fails

variable {position used : Nat} {bytes : List UInt8} {s : Step} {e : DecodeError}

theorem fails_length_iff :
    Fails position bytes length e used ↔ Length.Refused 10 0 position bytes e ∧ used = Length.reach 10 bytes := by
  constructor
  · intro h
    cases h with
    | noLength _ refused => exact ⟨refused, rfl⟩
  · rintro ⟨refused, rfl⟩
    exact .noLength (Or.inl rfl) refused

theorem not_fails_unit : ¬Fails position bytes (primitive .unit) e used := by
  intro h
  cases h with
  | noByte single => simp at single
  | noLength counted => simp at counted

theorem fails_bool_iff : Fails position bytes (primitive .bool) e used ↔
    (bytes = [] ∧ e = .endOfInput position ∧ used = 0) ∨
      ∃ b rest, bytes = b :: rest ∧ 1 < b ∧ e = .invalidBool b.toNat position ∧ used = 1 := by
  constructor
  · intro h
    cases h with
    | noByte _ none => exact Or.inl ⟨none, rfl, rfl⟩
    | noTruth here other => exact Or.inr ⟨_, _, here, other, rfl, rfl⟩
    | noLength counted => simp at counted
  · rintro (⟨none, rfl, rfl⟩ | ⟨b, rest, here, other, rfl, rfl⟩)
    · exact .noByte (Or.inr rfl) none
    · exact .noTruth here other

theorem fails_integer_iff {signed : Bool} {width : IntWidth} :
    Fails position bytes (primitive (.integer signed width)) e used ↔
      bytes.length < width.bytes ∧ e = .notEnough width.bytes position bytes.length ∧ used = 0 := by
  constructor
  · intro h
    cases h with
    | fewBytes few => exact ⟨few, rfl, rfl⟩
    | noByte single => simp at single
    | noLength counted => simp at counted
  · rintro ⟨few, rfl, rfl⟩
    exact .fewBytes few

theorem fails_char_iff : Fails position bytes (primitive .char) e used ↔
    bytes = [] ∧ e = .endOfInput position ∧ used = 0 := by
  constructor
  · intro h
    cases h with
    | noByte _ none => exact ⟨none, rfl, rfl⟩
    | noLength counted => simp at counted
  · rintro ⟨none, rfl, rfl⟩
    exact .noByte (Or.inl rfl) none

theorem fails_bytes_iff : Fails position bytes (primitive .bytes) e used ↔
    (Length.Refused 10 0 position bytes e ∧ used = Length.reach 10 bytes) ∨
      ∃ n front back more, (isLength n ∧ front = Length.encode n) ∧ bytes = front ++ back ∧
        (back.length < n ∧ e = .notEnough n (position + front.length : Nat) back.length ∧ more = 0) ∧
          used = front.length + more := by
  constructor
  · intro h
    cases h with
    | noByte single => simp at single
    | noLength _ refused => exact Or.inl ⟨refused, rfl⟩
    | bytesPastEnd small here few => exact Or.inr ⟨_, _, _, 0, ⟨small, rfl⟩, here, ⟨few, rfl, rfl⟩, rfl⟩
  · rintro (⟨refused, rfl⟩ | ⟨n, _, back, _, ⟨small, rfl⟩, here, ⟨few, rfl, rfl⟩, rfl⟩)
    · exact .noLength (Or.inr (Or.inr rfl)) refused
    · exact .bytesPastEnd small here few

theorem fails_string_iff : Fails position bytes (primitive .string) e used ↔
    (Length.Refused 10 0 position bytes e ∧ used = Length.reach 10 bytes) ∨
      ∃ n front back more, (isLength n ∧ front = Length.encode n) ∧ bytes = front ++ back ∧
        (((∀ size, ¬Spans n back size) ∧ e = .stringPastEnd n ∧ more = 0) ∨
          ∃ size, Spans n back size ∧
            ((back.length < size ∧ e = .notEnough size (position + front.length : Nat) back.length ∧ more = 0) ∨
              (size ≤ back.length ∧ (∀ cs, back.take size ≠ Utf8.encode cs) ∧
                e = .invalidUtf8 (back.take size) ∧ more = size))) ∧
        used = front.length + more := by
  constructor
  · intro h
    cases h with
    | noByte single => simp at single
    | noLength _ refused => exact Or.inl ⟨refused, rfl⟩
    | textPastEnd small here ended => exact Or.inr ⟨_, _, _, 0, ⟨small, rfl⟩, here, Or.inl ⟨ended, rfl, rfl⟩, rfl⟩
    | textCut small here spans few =>
      exact Or.inr ⟨_, _, _, 0, ⟨small, rfl⟩, here, Or.inr ⟨_, spans, Or.inl ⟨few, rfl, rfl⟩⟩, rfl⟩
    | noText small here spans enough none =>
      exact Or.inr ⟨_, _, _, _, ⟨small, rfl⟩, here, Or.inr ⟨_, spans, Or.inr ⟨enough, none, rfl, rfl⟩⟩, rfl⟩
  · rintro (⟨refused, rfl⟩ | ⟨n, _, back, _, ⟨small, rfl⟩, here, hback, rfl⟩)
    · exact .noLength (Or.inr (Or.inl rfl)) refused
    · rcases hback with ⟨ended, rfl, rfl⟩ | ⟨size, spans, ⟨few, rfl, rfl⟩ | ⟨enough, none, rfl, rfl⟩⟩
      · exact .textPastEnd small here ended
      · exact .textCut small here spans few
      · exact .noText small here spans enough none

/-- A step fails for these reasons and for no other, and consumes what they say. -/
theorem decode_rejects (s : Step) : s.decode.Rejects fun position bytes => Fails position bytes s := by
  cases s with
  | length => exact (Decoder.map_rejects Length.decode_rejects).congr fun _ _ _ _ => fails_length_iff.symm
  | primitive p =>
    cases p with
    | unit => exact (Decoder.give_rejects _).congr fun _ _ _ _ => ⟨False.elim, not_fails_unit⟩
    | bool => exact (Decoder.map_rejects decodeBool_rejects).congr fun _ _ _ _ => fails_bool_iff.symm
    | integer signed width =>
      exact (Decoder.map_rejects (Decoder.map_rejects (Decoder.bytes_rejects width.bytes))).congr
        fun _ _ _ _ => fails_integer_iff.symm
    | char => exact (Decoder.map_rejects Decoder.byte_rejects).congr fun _ _ _ _ => fails_char_iff.symm
    | string =>
      exact (Decoder.map_rejects (Decoder.andThen_rejects Length.decode_accepts Length.decode_rejects
        decodeCharacters_rejects)).congr fun _ _ _ _ => fails_string_iff.symm
    | bytes =>
      exact (Decoder.map_rejects (Decoder.andThen_rejects Length.decode_accepts Length.decode_rejects
        Decoder.bytes_rejects)).congr fun _ _ _ _ => fails_bytes_iff.symm

theorem Fails.used_le (h : Fails position bytes s e used) : used ≤ bytes.length := by
  cases h with
  | fewBytes | noByte => exact Nat.zero_le _
  | noTruth here => simp [here]
  | noLength => exact Length.reach_le 10 bytes
  | bytesPastEnd _ here | textPastEnd _ here | textCut _ here => simp [here]
  | noText _ here _ enough =>
    rw [here, List.length_append]
    omega

end Fails

end Step

end Wire

/-! ## Places -/

/-- The reason with the offsets in it further on by a distance. -/
def DecodeError.moved (distance : Nat) : DecodeError → DecodeError
  | endOfInput position => endOfInput (distance + position)
  | beforeStart position => beforeStart (distance + position)
  | notEnough requested position remaining => notEnough requested (distance + position) remaining
  | invalidBool value position => invalidBool value (distance + position)
  | e => e

theorem Length.Refused.moved {groups shift position : Nat} {bytes : List UInt8} {e : DecodeError} (distance : Nat)
    (h : Refused groups shift position bytes e) : Refused groups shift (distance + position) bytes (e.moved distance) := by
  cases h with
  | ended few announced =>
    rw [DecodeError.moved, ← Nat.add_assoc]
    exact .ended few announced
  | padded here few announced inner => exact .padded here few announced inner
  | overflowing here all announced large => exact .overflowing here all announced large

namespace Wire.Step

/-- A failure names the offset that it has from the start, and depends on nothing else that is before the position. -/
theorem Fails.moved {position used : Nat} {bytes : List UInt8} {s : Step} {e : DecodeError} (distance : Nat)
    (h : Fails position bytes s e used) : Fails (distance + position) bytes s (e.moved distance) used := by
  cases h with
  | fewBytes few => exact .fewBytes few
  | noByte single none => exact .noByte single none
  | noTruth here other => exact .noTruth here other
  | noLength counted refused => exact .noLength counted (refused.moved distance)
  | bytesPastEnd small here few =>
    rw [DecodeError.moved, ← Int.natCast_add, ← Nat.add_assoc]
    exact .bytesPastEnd small here few
  | textPastEnd small here ended => exact .textPastEnd small here ended
  | textCut small here spans few =>
    rw [DecodeError.moved, ← Int.natCast_add, ← Nat.add_assoc]
    exact .textCut small here spans few
  | noText small here spans enough none => exact .noText small here spans enough none

theorem decode_accepts (s : Step) : ∃ code : Value → List UInt8 → Prop, s.decode.Accepts code ∧
    ∀ v e, code v e → s.encode v = .ok e := by
  cases s with
  | primitive p => exact ⟨_, Wire.decode_accepts p, fun _ _ h => h.2⟩
  | length =>
    refine ⟨_, Decoder.map_accepts Length.decode_accepts, ?_⟩
    rintro _ _ ⟨n, ⟨-, rfl⟩, rfl⟩
    exact Length.encodeValue_natCast n

theorem decode_forward (s : Step) : s.decode.Forward := by
  cases s with
  | primitive p => exact Wire.decode_forward p
  | length => exact Decoder.map_forward Length.decode_forward

/-- What a step does at a position of a buffer, by its result and the position after it. It goes forward within the
buffer; what it gives is what the bytes that it goes past are the code of; it fails exactly for the reasons that there
are, and consumes what they say; and all this is as if the bytes from the position on were all, but for the offsets in
the reasons. -/
structure Outcome (data : List UInt8) (position : Nat) (s : Step) (result : Except DecodeError Value)
    (after : Nat) : Prop where
  forward : position ≤ after
  inside : after ≤ data.length
  atEnd : (Cursor.mk after (data.drop after)).atEnd = true ↔ after = data.length
  given : ∀ v, result = .ok v → s.encode v = .ok ((data.drop position).take (after - position))
  reason : ∀ e, result = .error e → e.IsForward ∧ Fails position (data.drop position) s e (after - position)
  fails : ∀ e used, Fails position (data.drop position) s e used → result = .error e ∧ after = position + used
  alone : result = (s.decode ⟨0, data.drop position⟩).1.mapError (·.moved position) ∧
    after = position + (s.decode ⟨0, data.drop position⟩).2.position

/-- A run of steps over a buffer from a position on: each step goes on where the one before it has stopped, be it
that it has failed. -/
inductive Reads (data : List UInt8) : Nat → List Step → List (Except DecodeError Value × Cursor) → Prop
  | done {position : Nat} : Reads data position [] []
  | step {position after : Nat} {s : Step} {result : Except DecodeError Value} {steps : List Step}
    {run : List (Except DecodeError Value × Cursor)} (one : Outcome data position s result after)
    (others : Reads data after steps run) :
    Reads data position (s :: steps) ((result, ⟨after, data.drop after⟩) :: run)

section Runs

variable {data : List UInt8} {position : Nat}

theorem atEnd_iff (h : position ≤ data.length) :
    (Cursor.mk position (data.drop position)).atEnd = true ↔ position = data.length := by
  rw [Cursor.atEnd, List.isEmpty_iff, List.drop_eq_nil_iff]
  omega

/-- A failure is that of the bytes to come by themselves, moved to the position. -/
theorem outcome_of_error (h : position ≤ data.length) {s : Step} {e : DecodeError} {cur : Cursor}
    (halone : s.decode ⟨0, data.drop position⟩ = (.error e, cur)) : ∃ result after,
    s.decode ⟨position, data.drop position⟩ = (result, ⟨after, data.drop after⟩) ∧
      Outcome data position s result after := by
  have hrest : (data.drop position).length = data.length - position := List.length_drop ..
  obtain ⟨used, hfails, rfl⟩ := (decode_rejects s _ _ _ _).1 halone
  have hmoved : Fails position (data.drop position) s (e.moved position) used := hfails.moved position
  have hread := (decode_rejects s _ _ _ _).2 ⟨used, hmoved, rfl⟩
  have hinside : position + used ≤ data.length := by
    have := hmoved.used_le
    omega
  rw [List.drop_drop] at hread
  refine ⟨_, _, hread, Nat.le_add_right .., hinside, atEnd_iff hinside, nofun, ?_, fun e' used' h' => ?_, ?_⟩
  · rintro _ ⟨⟩
    rw [Nat.add_sub_cancel_left]
    exact ⟨decode_forward s _ _ _ hread, hmoved⟩
  · obtain ⟨hresult, hcur⟩ := Prod.mk.inj (hread.symm.trans ((decode_rejects s _ _ _ _).2 ⟨used', h', rfl⟩))
    exact ⟨hresult, (Cursor.mk.inj hcur).1⟩
  · rw [halone, Nat.zero_add]
    exact ⟨rfl, rfl⟩

/-- A value is read from a code at the front of the bytes to come, wherever they stand. -/
theorem outcome_of_ok {s : Step} {v : Value} {cur : Cursor} (h : position ≤ data.length)
    (halone : s.decode ⟨0, data.drop position⟩ = (.ok v, cur)) : ∃ result after,
    s.decode ⟨position, data.drop position⟩ = (result, ⟨after, data.drop after⟩) ∧
      Outcome data position s result after := by
  have hrest : (data.drop position).length = data.length - position := List.length_drop ..
  obtain ⟨code, haccepts, hencode⟩ := decode_accepts s
  obtain ⟨front, hfront, hpast⟩ := (haccepts _ _ _).1 halone
  have hdata : data.drop position = front ++ cur.rest := hpast.rest
  have hread : s.decode ⟨position, data.drop position⟩ =
      (.ok v, ⟨position + front.length, data.drop (position + front.length)⟩) :=
    haccepts.drop_iff.2 ⟨front, hfront, ⟨cur.rest, hdata.symm⟩, rfl⟩
  have hinside : position + front.length ≤ data.length := by
    have := congrArg List.length hdata
    rw [List.length_append] at this
    omega
  refine ⟨_, _, hread, Nat.le_add_right .., hinside, atEnd_iff hinside, ?_, nofun, fun e used h' => ?_, ?_⟩
  · rintro _ ⟨⟩
    rw [Nat.add_sub_cancel_left, hdata, List.take_left]
    exact hencode v front hfront
  · exact nomatch hread.symm.trans ((decode_rejects s _ _ _ _).2 ⟨used, h', rfl⟩)
  · rw [halone]
    exact ⟨rfl, by rw [hpast.position, Nat.zero_add]⟩

theorem exists_outcome (h : position ≤ data.length) (s : Step) : ∃ result after,
    s.decode ⟨position, data.drop position⟩ = (result, ⟨after, data.drop after⟩) ∧
      Outcome data position s result after := by
  rcases halone : s.decode ⟨0, data.drop position⟩ with ⟨e | v, cur⟩
  · exact outcome_of_error h halone
  · exact outcome_of_ok h halone

/-- Each step of a run has its outcome, and so the run goes on. -/
theorem readAll_reads : ∀ {position : Nat} (_ : position ≤ data.length) (steps : List Step),
    Reads data position steps (readAll ⟨position, data.drop position⟩ steps)
  | _, _, [] => .done
  | _, h, s :: steps => by
    obtain ⟨result, after, hread, houtcome⟩ := exists_outcome h s
    rw [readAll, hread]
    exact .step houtcome (readAll_reads houtcome.inside steps)

/-- A run does not go back behind its start and not past the end. -/
theorem Reads.within {steps : List Step} {run : List (Except DecodeError Value × Cursor)}
    (h : Reads data position steps run) :
    ∀ r ∈ run, position ≤ r.2.position ∧ r.2.position ≤ data.length := by
  induction h with
  | done => exact fun _ hr => nomatch hr
  | step one _ ih =>
    intro r hr
    rcases List.mem_cons.1 hr with rfl | hr
    · exact ⟨one.forward, one.inside⟩
    · exact ⟨Nat.le_trans one.forward (ih r hr).1, (ih r hr).2⟩

end Runs

/-- A cursor is put at any place of a buffer, and however its steps end, each goes on where the one before it has
stopped: forward, not past the end, and depending on nothing but the bytes that come. -/
theorem reads_disciplined (data : List UInt8) (start : Nat) (h : start ≤ data.length) :
    ∃ cur, Cursor.at? start data = .ok cur ∧ cur.position = start ∧ (cur.atEnd = true ↔ start = data.length) ∧
      ∀ steps, Reads data start steps (readAll cur steps) ∧
        ∀ r ∈ readAll cur steps, start ≤ r.2.position ∧ r.2.position ≤ data.length := by
  refine ⟨_, Cursor.at?_natCast h, rfl, atEnd_iff h, fun steps => ?_⟩
  have hreads := readAll_reads h steps
  exact ⟨hreads, hreads.within⟩

/-- Three failures in a row: a truth value of another byte, a text whose two characters are not well-formed, and an
integer at the end. -/
theorem reads_disciplined_failures : 1 ≤ [7, 5, 2, 0xC3, 0x28, 0x61].length ∧
    Reads [7, 5, 2, 0xC3, 0x28, 0x61] 1 [primitive .bool, primitive .string, primitive (.integer false .w16)]
      [(.error (.invalidBool 5 1), ⟨2, [2, 0xC3, 0x28, 0x61]⟩), (.error (.invalidUtf8 [0xC3, 0x28, 0x61]), ⟨6, []⟩),
        (.error (.notEnough 2 6 0), ⟨6, []⟩)] := by
  refine ⟨by decide, ?_⟩
  obtain ⟨cur, hcur, -, -, hrun⟩ := reads_disciplined [7, 5, 2, 0xC3, 0x28, 0x61] 1 (by decide)
  obtain rfl := Except.ok.inj hcur
  exact (hrun [primitive .bool, primitive .string, primitive (.integer false .w16)]).1

end Wire.Step

end SolidityWire
