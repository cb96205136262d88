/-
Values of the primitive types: reading accepts exactly the codes of the values of the type, and whatever
else can be written under a type is written like one of its values.
-/
import SolidityWire.Codec.Access
import SolidityWire.Proofs.Except
import SolidityWire.Proofs.Wire.Integer
import SolidityWire.Proofs.Wire.Length

namespace SolidityWire

open Text

/-- The number of the items of a value; the characters of a text are its items. -/
def Value.extent (v : Value) : Nat :=
  (v.items?.getD []).length

/-- What is a view has items of one byte each. -/
def Value.IsFlat : Value → Prop
  | view items data => data.length = items.length
  | _ => True

namespace Wire

/-- The values of a primitive type, of those lengths that are admitted. -/
inductive Typed (admits : Nat → Prop) : Primitive → Value → Prop
  | unit : Typed admits .unit .null
  | bool (b : Bool) : Typed admits .bool (.boolean b)
  | integer (signed : Bool) (width : IntWidth) (n : Int) : Typed admits (.integer signed width) (.integer n)
  | char (c : Char) (h : c.toNat < 256) : Typed admits .char (.text (String.singleton c))
  | string (s : String) (h : admits s.toList.length) : Typed admits .string (.text s)
  | bytes (data : List UInt8) (h : admits data.length) : Typed admits .bytes (.bytes data)

/-- A length that can be written in 64 bits. -/
abbrev isLength (n : Nat) : Prop :=
  n < 2 ^ 64

/-! ## Writing -/

theorem encode_integer {signed : Bool} {width : IntWidth} {n : Int} {e : List UInt8} :
    encode (.integer signed width) (.integer n) = .ok e ↔
      Integer.inRange signed width.bytes n = true ∧ e = Integer.encode width.bytes n := by
  simp only [encode, encodeInteger, Value.wholeNumber?]
  split
  · rename_i h
    exact ⟨fun he => ⟨h, (Except.ok.inj he).symm⟩, fun he => by rw [he.2]⟩
  · rename_i h
    exact ⟨fun he => (nomatch he), fun he => absurd he.1 h⟩

/-- A natural number is written without a sign if the width is enough for it. -/
theorem encode_natural {width : IntWidth} {n : Nat} {e : List UInt8} :
    encode (.integer false width) (.integer n) = .ok e ↔
      n < 256 ^ width.bytes ∧ e = Integer.toBytes width.bytes n := by
  have hr : Integer.inRange false width.bytes n = true ↔ n < 256 ^ width.bytes := by
    rw [Integer.inRange_iff, Integer.modulus, if_neg Bool.false_ne_true]
    omega
  rw [encode_integer, hr]
  exact and_congr_right fun h => by rw [Integer.encode_natCast h]

theorem encode_ordinal {n : Nat} {e : List UInt8} :
    encode (.integer false .w8) (.integer n) = .ok e ↔ n < 256 ∧ e = [n.toUInt8] := by
  rw [encode_natural, IntWidth.bytes, Nat.pow_one]
  rfl

theorem encode_choice {n : Nat} {e : List UInt8} :
    encode (.integer false .w64) (.integer n) = .ok e ↔ n < 2 ^ 64 ∧ e = Integer.toBytes 8 n := by
  have h : 256 ^ 8 = 2 ^ 64 := by decide
  rw [encode_natural, IntWidth.bytes, h]

theorem encode_char {c : Char} (h : c.toNat < 256) :
    encode .char (.text (String.singleton c)) = .ok [c.toNat.toUInt8] := by
  simp only [encode, encodeChar, String.toList_singleton]
  rw [if_pos h]

theorem encode_string (s : String) :
    encode .string (.text s) = .ok (Length.encode s.toList.length ++ Utf8.encode s.toList) := by
  simp only [encode, encodeText, Utf8.countCharacters_encode]

theorem encode_bytes (data : List UInt8) :
    encode .bytes (.bytes data) = .ok (Length.encode data.length ++ data) := rfl

/-! ## Reading -/

theorem decodeBool_accepts : decodeBool.Accepts fun b e => e = [if b then 1 else 0] := by
  have step : ∀ position, (Decoder.byte.andThen fun b =>
      if b > 1 then Decoder.refuse (.invalidBool b.toNat position) else Decoder.give (b == 1)).Accepts
        fun b e => e = [if b then 1 else 0] := fun position => by
    refine (@Decoder.andThen_accepts _ _ _ _ _ (fun b r e => ¬b > 1 ∧ r = (b == 1) ∧ e = []) Decoder.byte_accepts
      fun b => ?_).congr fun r e => ?_
    · split
      · rename_i h
        exact (Decoder.refuse_accepts _).congr fun r e => ⟨False.elim, fun hr => hr.1 h⟩
      · rename_i h
        exact (Decoder.give_accepts _).congr fun r e => ⟨fun hr => ⟨h, hr⟩, fun hr => hr.2⟩
    · constructor
      · rintro ⟨b, _, _, rfl, ⟨hb, rfl, rfl⟩, rfl⟩
        have : b = 0 ∨ b = 1 := by
          simp only [gt_iff_lt, UInt8.lt_iff_toNat_lt, UInt8.reduceToNat, ← UInt8.toNat_inj] at hb ⊢
          omega
        rcases this with rfl | rfl <;> rfl
      · rintro rfl
        cases r
        · exact ⟨0, [0], [], rfl, ⟨by decide, rfl, rfl⟩, rfl⟩
        · exact ⟨1, [1], [], rfl, ⟨by decide, rfl, rfl⟩, rfl⟩
  exact fun cur => step cur.position cur

/-- The text of bytes that have been read. -/
def giveText (data : List UInt8) : Decoder String :=
  match Utf8.decode? data with
  | some cs => .give (String.ofList cs)
  | none => .refuse (.invalidUtf8 data)

theorem giveText_accepts (data : List UInt8) :
    (giveText data).Accepts fun s e => data = Utf8.encode s.toList ∧ e = [] := by
  unfold giveText
  split
  · rename_i cs hcs
    rw [Utf8.decode?_eq_some_iff] at hcs
    refine (Decoder.give_accepts _).congr fun s e => ?_
    constructor
    · rintro ⟨rfl, rfl⟩; exact ⟨by rw [String.toList_ofList]; exact hcs, rfl⟩
    · rintro ⟨hs, rfl⟩
      have := Utf8.decode?_encode s.toList
      rw [← hs, Utf8.decode?_eq_some_iff.2 hcs] at this
      rw [Option.some.inj this, String.ofList_toList]
      exact ⟨rfl, rfl⟩
  · rename_i hnone
    refine (Decoder.refuse_accepts _).congr fun s e => ⟨False.elim, ?_⟩
    rintro ⟨rfl, -⟩
    rw [Utf8.decode?_encode] at hnone; cases hnone

theorem decodeCharacters_accepts (count : Nat) :
    (decodeCharacters count).Accepts fun s e => s.toList.length = count ∧ e = Utf8.encode s.toList := by
  have step : ∀ size, ((Decoder.bytes size).andThen giveText).Accepts
      fun s e => e = Utf8.encode s.toList ∧ e.length = size := fun size => by
    refine (Decoder.andThen_accepts (Decoder.bytes_accepts size) giveText_accepts).congr fun s e => ?_
    constructor
    · rintro ⟨data, _, _, ⟨rfl, rfl⟩, ⟨rfl, rfl⟩, rfl⟩; rw [List.append_nil]; exact ⟨rfl, rfl⟩
    · rintro ⟨rfl, rfl⟩; exact ⟨_, _, [], ⟨rfl, rfl⟩, ⟨rfl, rfl⟩, (List.append_nil _).symm⟩
  intro cur s cur'
  unfold decodeCharacters
  constructor
  · intro h
    split at h
    · cases h
    rename_i size hsize
    obtain ⟨e, ⟨rfl, hl⟩, hpast⟩ := (step size cur s cur').1 h
    rw [hpast.rest, ← hl] at hsize
    exact ⟨_, ⟨(eq_length_of_spanOf hsize).symm, rfl⟩, hpast⟩
  · rintro ⟨e, ⟨rfl, rfl⟩, hpast⟩
    have hspan := spanOf_encode s.toList cur'.rest
    rw [← hpast.rest] at hspan
    rw [hspan]
    exact (step _ cur s cur').2 ⟨_, ⟨rfl, rfl⟩, hpast⟩

/-- A value behind its length. -/
theorem decode_length_accepts {α : Type} {d : Nat → Decoder α} {extent : α → Nat} {data : α → List UInt8}
    (hd : ∀ n, (d n).Accepts fun a e => extent a = n ∧ e = data a) :
    (Length.decode.andThen d).Accepts fun a e =>
      isLength (extent a) ∧ e = Length.encode (extent a) ++ data a := by
  refine (Decoder.andThen_accepts Length.decode_accepts hd).congr fun a e => ?_
  constructor
  · rintro ⟨n, _, _, ⟨hn, rfl⟩, ⟨rfl, rfl⟩, rfl⟩; exact ⟨hn, rfl⟩
  · rintro ⟨hn, rfl⟩; exact ⟨_, _, _, ⟨hn, rfl⟩, ⟨rfl, rfl⟩, rfl⟩

/-- Reading accepts the codes of the values of the type whose lengths can be written. -/
theorem decode_accepts (p : Primitive) :
    (decode p).Accepts fun v e => Typed isLength p v ∧ encode p v = .ok e := by
  cases p with
  | unit =>
    refine (Decoder.give_accepts _).congr fun v e => ?_
    constructor
    · rintro ⟨rfl, rfl⟩; exact ⟨.unit, rfl⟩
    · rintro ⟨h, he⟩; cases h; cases he; exact ⟨rfl, rfl⟩
  | bool =>
    refine (Decoder.map_accepts decodeBool_accepts).congr fun v e => ?_
    constructor
    · rintro ⟨b, rfl, rfl⟩; exact ⟨.bool b, rfl⟩
    · rintro ⟨h, he⟩
      cases h with
      | bool b => cases he; exact ⟨b, rfl, rfl⟩
  | integer signed width =>
    refine (Decoder.map_accepts (Integer.decode_accepts signed width.bytes)).congr fun v e => ?_
    constructor
    · rintro ⟨n, h, rfl⟩; exact ⟨.integer _ _ n, encode_integer.2 h⟩
    · rintro ⟨h, he⟩
      cases h with
      | integer _ _ n => exact ⟨n, encode_integer.1 he, rfl⟩
  | char =>
    refine (Decoder.map_accepts Decoder.byte_accepts).congr fun v e => ?_
    constructor
    · rintro ⟨b, rfl, rfl⟩
      -- each byte is that of a character, as none below U+0100 is a surrogate
      have hb := b.toNat_lt
      have hc : (Char.ofNat b.toNat).toNat = b.toNat := Utf8.toNat_charOfNat (by omega)
      refine ⟨.char _ (by omega), ?_⟩
      rw [encode_char (by omega), hc, Utf8.toUInt8_toNat]
    · rintro ⟨h, he⟩
      cases h with
      | char c hc =>
        rw [encode_char hc] at he
        cases he
        exact ⟨_, rfl, by rw [Utf8.toNat_toUInt8 hc, Char.ofNat_toNat]⟩
  | string =>
    refine (Decoder.map_accepts (decode_length_accepts decodeCharacters_accepts)).congr fun v e => ?_
    constructor
    · rintro ⟨s, ⟨hs, rfl⟩, rfl⟩; exact ⟨.string s hs, encode_string s⟩
    · rintro ⟨h, he⟩
      cases h with
      | string s hs => rw [encode_string] at he; cases he; exact ⟨s, ⟨hs, rfl⟩, rfl⟩
  | bytes =>
    have hbytes : ∀ n, (Decoder.bytes n).Accepts fun data e => data.length = n ∧ e = data := fun n =>
      (Decoder.bytes_accepts n).congr fun _ _ => and_comm
    refine (Decoder.map_accepts (decode_length_accepts hbytes)).congr fun v e => ?_
    constructor
    · rintro ⟨data, ⟨hs, rfl⟩, rfl⟩; exact ⟨.bytes data hs, encode_bytes data⟩
    · rintro ⟨h, he⟩
      cases h with
      | bytes data hs => rw [encode_bytes] at he; cases he; exact ⟨data, ⟨hs, rfl⟩, rfl⟩

/-! ## Other values -/

/-- What is written as an integer is a number, and written as that. -/
theorem encode_integer_of_any {signed : Bool} {width : IntWidth} {x : Value} {e : List UInt8}
    (h : encode (.integer signed width) x = .ok e) :
    ∃ n, x.wholeNumber? = some n ∧ encode (.integer signed width) (.integer n) = .ok e := by
  simp only [encode, encodeInteger] at h
  split at h
  · cases h
  split at h
  · cases h
  rename_i n hn
  split at h
  · rename_i hr
    cases h
    exact ⟨n, hn, encode_integer.2 ⟨hr, rfl⟩⟩
  · cases h

/-- What is written as a byte string are bytes behind a number, that of the items of the value. -/
theorem encodeBytes_eq_ok {x : Value} {e : List UInt8} (h : encodeBytes x = .ok e) :
    ∃ data, e = Length.encode x.extent ++ data ∧ (x.IsFlat → data.length = x.extent) := by
  unfold encodeBytes at h
  split at h
  · rename_i data
    cases h
    exact ⟨data, by simp [Value.extent, Value.items?]⟩
  · rename_i data
    cases h
    exact ⟨data, by simp [Value.extent, Value.items?]⟩
  · rename_i items data
    cases h
    exact ⟨data, rfl, id⟩
  · cases h

/-- A byte, a character and a number are all written as a char by one byte. -/
theorem exists_byte_of_encodeChar {x : Value} {e : List UInt8} (h : encodeChar x = .ok e) :
    ∃ n, n < 256 ∧ e = [n.toUInt8] := by
  unfold encodeChar at h
  split at h
  case h_1 b | h_2 b =>
    cases h
    exact ⟨b.toNat, b.toNat_lt, by rw [Utf8.toUInt8_toNat]⟩
  case h_3 | h_4 | h_6 => cases h
  case h_5 =>
    split at h
    · split at h
      · rename_i c _ hc
        cases h; exact ⟨c.toNat, hc, rfl⟩
      · cases h
    · cases h
  case h_7 =>
    split at h
    · cases h
    · split at h
      · rename_i n _ hn
        cases h; exact ⟨n.toNat, by omega, rfl⟩
      · cases h

/-- What can be written under a type is written like one of its values, if views of wide items are not written
as byte strings. -/
theorem exists_typed_of_encode {p : Primitive} {x : Value} {e : List UInt8} (hx : isLength x.extent)
    (hflat : p = .bytes → x.IsFlat) (h : encode p x = .ok e) : ∃ v, Typed isLength p v ∧ encode p v = .ok e := by
  cases p with
  | unit => exact ⟨.null, .unit, h⟩
  | bool =>
    cases x with
    | boolean b => exact ⟨_, .bool b, h⟩
    | _ => cases h
  | integer signed width =>
    obtain ⟨n, -, he⟩ := encode_integer_of_any h
    exact ⟨_, .integer signed width n, he⟩
  | char =>
    obtain ⟨n, hn, rfl⟩ := exists_byte_of_encodeChar h
    have hc : (Char.ofNat n).toNat = n := Utf8.toNat_charOfNat (by omega)
    exact ⟨_, .char (Char.ofNat n) (by omega), by rw [encode_char (by omega), hc]⟩
  | string =>
    cases x with
    | text s =>
      have hs : s.toList.length = (Value.text s).extent := by simp [Value.extent, Value.items?]
      exact ⟨_, .string s (hs ▸ hx), h⟩
    | _ => cases h
  | bytes =>
    obtain ⟨data, rfl, hd⟩ := encodeBytes_eq_ok h
    have hd := hd (hflat rfl)
    exact ⟨_, .bytes data (hd ▸ hx), by rw [encode_bytes, hd]⟩

end Wire

end SolidityWire
