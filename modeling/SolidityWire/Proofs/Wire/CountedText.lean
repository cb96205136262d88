/-
A text behind the number of its characters. At any place in a buffer a text is read exactly if its bytes stand
there behind that number, whatever comes after them; the text is then the only one, and those are the bytes with
which it is written. The number says how many characters to go past and not how many bytes, so that it is the widths
announced by the first bytes of characters that decide where a text ends.
-/
import SolidityWire.Proofs.Wire.Forward
import SolidityWire.Proofs.Wire.Prefix
import SolidityWire.Proofs.Wire.Primitive
import SolidityWire.Wire.Step

namespace SolidityWire

open Text

namespace Wire

/-- The bytes of a text behind the number of its characters. -/
def counted (s : String) : List UInt8 :=
  Length.encode s.toList.length ++ Utf8.encode s.toList

/-- The bytes begin with a text behind the number of its characters, which has at most 64 bits. -/
structure Leads (s : String) (bytes : List UInt8) : Prop where
  count : isLength s.toList.length
  front : counted s <+: bytes

theorem decodeText_accepts :
    (Length.decode.andThen decodeCharacters).Accepts fun s e => isLength s.toList.length ∧ e = counted s :=
  decode_length_accepts decodeCharacters_accepts

/-- Bytes begin with one text at most. -/
theorem Leads.unique {s s' : String} {bytes : List UInt8} (h : Leads s bytes) (h' : Leads s' bytes) : s = s' := by
  obtain ⟨rest, hrest⟩ := h.front
  obtain ⟨rest', hrest'⟩ := h'.front
  exact (decodeText_accepts.unique ⟨h.count, rfl⟩ ⟨h'.count, rfl⟩ (hrest.trans hrest'.symm)).1

theorem decode_string_iff {bytes : List UInt8} {start : Nat} {v : Value} {cur : Cursor} :
    (Step.primitive .string).decode ⟨start, bytes.drop start⟩ = (.ok v, cur) ↔
      ∃ s, Leads s (bytes.drop start) ∧ v = .text s ∧
        cur = ⟨start + (counted s).length, bytes.drop (start + (counted s).length)⟩ := by
  change ((Length.decode.andThen decodeCharacters).map Value.text) _ = _ ↔ _
  rw [(Decoder.map_accepts decodeText_accepts).drop_iff]
  constructor
  · rintro ⟨_, ⟨s, ⟨hcount, rfl⟩, rfl⟩, hfront, rfl⟩
    exact ⟨s, ⟨hcount, hfront⟩, rfl, rfl⟩
  · rintro ⟨s, h, rfl, rfl⟩
    exact ⟨counted s, ⟨s, ⟨h.count, rfl⟩, rfl⟩, h.front, rfl⟩

theorem write_string (s : String) (o : Output) :
    (Step.primitive .string).write (.text s) o = (.ok (), o.put (counted s)) := by
  rw [Step.write_eq]
  change o.putEncoded (encode .string (.text s)) = _
  rw [encode_string]
  rfl

/-- A text is written behind the number of its characters, which is that of those among its bytes that continue no
character. In a buffer it is read at every place where the bytes begin with it in this form, the reader goes past
exactly these bytes, and at no such place is there another text; where the bytes begin with none, reading is refused. -/
theorem string_exact :
    (∀ (s : String) (o : Output),
      (Step.primitive .string).write (.text s) o =
        (.ok (), o.put (Length.encode s.toList.length ++ Utf8.encode s.toList)) ∧
      Utf8.countCharacters (Utf8.encode s.toList) = s.toList.length) ∧
    (∀ (bytes : List UInt8) (start : Nat), start ≤ bytes.length → ∃ cur, Cursor.at? start bytes = .ok cur ∧
      (∀ s, Leads s (bytes.drop start) →
        (∀ s', Leads s' (bytes.drop start) → s' = s) ∧
        (Step.primitive .string).decode cur =
          (.ok (.text s), ⟨start + (counted s).length, bytes.drop (start + (counted s).length)⟩)) ∧
      ((¬∃ s, Leads s (bytes.drop start)) →
        ∃ e cur', (Step.primitive .string).decode cur = (.error e, cur') ∧ e.IsForward)) := by
  refine ⟨fun s o => ⟨write_string s o, Utf8.countCharacters_encode s.toList⟩, fun bytes start within => ?_⟩
  refine ⟨_, Cursor.at?_natCast within, fun s hs => ⟨fun s' hs' => hs'.unique hs, ?_⟩, fun hnone => ?_⟩
  · exact decode_string_iff.2 ⟨s, hs, rfl, rfl⟩
  · rcases hread : (Step.primitive .string).decode ⟨start, bytes.drop start⟩ with ⟨v | v, cur'⟩
    · exact ⟨v, cur', rfl, decode_forward .string _ _ _ hread⟩
    · obtain ⟨s, hs, -⟩ := decode_string_iff.1 hread
      exact absurd ⟨s, hs⟩ hnone

/-- A text of two characters in three bytes is read between other bytes; the three bytes of a surrogate are none. -/
theorem string_exact_inside :
    (1 ≤ [7, 2, 0xC3, 0xA9, 0x61, 0xFF].length ∧ Leads (String.ofList ['é', 'a']) [2, 0xC3, 0xA9, 0x61, 0xFF] ∧
      (Step.primitive .string).decode ⟨1, [2, 0xC3, 0xA9, 0x61, 0xFF]⟩ =
        (.ok (.text (String.ofList ['é', 'a'])), ⟨5, [0xFF]⟩)) ∧
    (0 ≤ [1, 0xED, 0xA0, 0x80].length ∧ (¬∃ s, Leads s [1, 0xED, 0xA0, 0x80]) ∧
      ∃ e cur', (Step.primitive .string).decode ⟨0, [1, 0xED, 0xA0, 0x80]⟩ = (.error e, cur') ∧ e.IsForward) := by
  have hcounted : counted (String.ofList ['é', 'a']) = [2, 0xC3, 0xA9, 0x61] := by
    unfold counted
    rw [String.toList_ofList, Length.encode_of_lt (by decide)]
    rfl
  have hleads : Leads (String.ofList ['é', 'a']) [2, 0xC3, 0xA9, 0x61, 0xFF] := by
    refine ⟨by rw [String.toList_ofList]; decide, ?_⟩
    rw [hcounted]
    exact ⟨[0xFF], rfl⟩
  have hnone : ¬∃ s, Leads s [1, 0xED, 0xA0, 0x80] := by
    -- otherwise the bytes would be read
    rintro ⟨s, hs⟩
    have hread := decode_string_iff.2 ⟨s, show Leads s ([1, 0xED, 0xA0, 0x80].drop 0) from hs, rfl, rfl⟩
    have hrefused : ((Step.primitive .string).decode ⟨0, [1, 0xED, 0xA0, 0x80]⟩).1 =
      .error (.invalidUtf8 [0xED, 0xA0, 0x80]) := rfl
    rw [show (Step.primitive .string).decode ⟨0, [1, 0xED, 0xA0, 0x80]⟩ = _ from hread] at hrefused
    cases hrefused
  refine ⟨⟨by decide, hleads, ?_⟩, ⟨by decide, hnone, ?_⟩⟩
  · obtain ⟨cur, hcur, hread, -⟩ := string_exact.2 [7, 2, 0xC3, 0xA9, 0x61, 0xFF] 1 (by decide)
    obtain rfl := Except.ok.inj hcur
    have hresult := (hread _ hleads).2
    rw [hcounted] at hresult
    exact hresult
  · obtain ⟨cur, hcur, -, hrefused⟩ := string_exact.2 [1, 0xED, 0xA0, 0x80] 0 (by decide)
    obtain rfl := Except.ok.inj hcur
    exact hrefused hnone

end Wire

end SolidityWire
