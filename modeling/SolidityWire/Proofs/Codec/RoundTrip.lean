/-
What was written is read again, wherever it stands, with one exception: a tagged record is read with what its
type has under the names of the fields that are not chosen, which need not be null. Codes tell values apart
nevertheless, and none begins another.
-/
import SolidityWire.Proofs.Codec.Decoding
import SolidityWire.Proofs.Codec.Encoding

namespace SolidityWire

open Codec GeneratedType

variable {t : Table}

/-! ## Fields of other variants -/

/-- No variant has a field that is called like an attribute of its type. -/
def Table.LeavesNulls (t : Table) : Prop :=
  ∀ key variants, .taggedEnum key variants ∈ t.shapes → ∀ field ∈ Shape.payloadFields variants,
    typeAttribute? (Text.asciiName key) (fieldName field) = none

theorem payloadEntries_congr {absent absent' : String → Value} {variants : Variants} {chosen : Option String}
    {v : Value} (h : ∀ field ∈ Shape.payloadFields variants, absent (fieldName field) = absent' (fieldName field)) :
    payloadEntries absent variants chosen v = payloadEntries absent' variants chosen v :=
  List.map_congr_left fun field hf => by rw [h field hf]

theorem Layout.read_of_nulls {s : Shape} {v : Value} {front : Except EncodeError (List UInt8)} {parts : List Part}
    (ht : t.LeavesNulls) (hs : s ∈ t.shapes) (h : Layout (.nulls Wire.isLength) s v front parts) :
    Layout .read s v front parts := by
  cases h with
  | primitive ht => exact .primitive ht
  | absent hb => exact .absent hb
  | present hb => exact .present hb
  | emptyBox hb => exact .emptyBox hb
  | box hb => exact .box hb
  | sequence hl => exact .sequence hl
  | array hl => exact .array hl
  | struct ho hl => exact .struct ho hl
  | simpleEnum ht hk hn => exact .simpleEnum ht hk hn
  | @taggedEnum key variants n v ho hk hn =>
    have habsent : ∀ field ∈ Shape.payloadFields variants,
        (Convention.nulls Wire.isLength).absent key (fieldName field) = Convention.read.absent key (fieldName field) :=
      fun field hf => by simp only [Convention.nulls, Convention.read, ht key variants hs field hf, Option.getD_none]
    rw [payloadEntries_congr habsent]
    exact .taggedEnum ho hk hn

/-- Where no variant's field is called like an attribute of its type, values with nulls are those that are
read. -/
theorem Typed.read_of_nulls (ht : t.LeavesNulls) : ∀ {key : String} {v : Value},
    Typed (.nulls Wire.isLength) t key v → Typed .read t key v
  | _, _, .mk hs hl hp =>
    .mk hs (hl.read_of_nulls ht (Table.mem_of_get? hs).1) fun p hmem => (hp p hmem).read_of_nulls ht

namespace Codec

/-! ## Round trip -/

/-- A value is read again where it was written, in any context, exactly if it has what is read in the fields of
other variants, as it has if none of them is called like an attribute of its type. In any case no other value
has its code, nor one that begins with it. -/
theorem decodeAt_encode {r : Registry} {edition : Edition} {c : Codec} (hc : ofRegistry r edition = .ok c)
    (hr : r.IsNamed) {key : String} {v : Value} {e : List UInt8}
    (hv : Typed (.nulls Wire.isLength) c.table key v) (he : c.encode key v = .ok e) :
    ((∀ before after, c.decodeAt key before.length (before ++ e ++ after) =
        .ok (v, ⟨before.length + e.length, after⟩)) ↔ Typed .read c.table key v) ∧
      (c.decode key e = .ok v ↔ Typed .read c.table key v) ∧
      (c.table.LeavesNulls → Typed .read c.table key v) ∧
      ∀ w e', Typed (.nulls Wire.isLength) c.table key w → c.encode key w = .ok e' → e <+: e' → w = v ∧ e' = e := by
  obtain ⟨-, hs⟩ := sound_of_ofRegistry hc hr
  have read : Typed .read c.table key v → Codes .read c.table key v e := fun h =>
    (codes_of_encode hs h he).mono Convention.read.telling_le
  refine ⟨⟨fun h => ?_, fun h before after => ?_⟩, ⟨fun h => ?_, fun h => ?_⟩, fun ht => hv.read_of_nulls ht, ?_⟩
  · have h := h [] []
    obtain ⟨_, _, _, -, -, h, -⟩ := (decodeAt_eq_ok hs).1 h
    exact h.typed
  · exact (decodeAt_eq_ok hs).2 ⟨before, e, after, rfl, rfl, read h, rfl⟩
  · exact ((decode_eq_ok hs).1 h).typed
  · exact (decode_eq_ok hs).2 (read h)
  · rintro w e' hw he' ⟨rest, hrest⟩
    have hcodes := codes_of_encode hs hv he
    have hcodes' := codes_of_encode hs hw he'
    have hrest : e ++ rest = e' ++ [] := by rw [hrest, List.append_nil]
    obtain ⟨rfl, rfl, -⟩ := hcodes.unique (fun _ h => h) _ _ _ _ hcodes' hrest
    exact ⟨rfl, rfl⟩

/-! ## A variant that is called like an attribute -/

/-- An enumeration with a variant that is called like an attribute of its type. -/
def nameVariant : Registry :=
  [("T", .enum [⟨0, "A", .newType (.primitive (.integer false .w8))⟩,
    ⟨1, "__name__", .newType (.primitive (.integer false .w8))⟩])]

/-- Its variants in the table. -/
def nameVariants : Variants :=
  [("A", some "a", some (.primitive (.integer false .w8))),
    ("__name__", some "__name__", some (.primitive (.integer false .w8)))]

/-- Its codec. -/
def nameVariantCodec : Codec where
  table :=
    { shapes := [.primitive (.integer false .w8), .primitive (.integer false .w64), .taggedEnum "T" nameVariants]
      keys_nodup := by decide
      not_reference := by decide }
  functions := [("T", .taggedEnum "T" nameVariants), ("uint64", .primitive (.integer false .w64)),
    ("uint8", .primitive (.integer false .w8))]

theorem ofRegistry_nameVariant : ofRegistry nameVariant = .ok nameVariantCodec :=
  ofRegistry_eq_ok (by decide +kernel)

theorem typed_nameVariant {k : Convention} (hk : k.records (taggedRecord "T" nameVariants)) {n m : Nat} (hn : n < 2) :
    Typed k nameVariantCodec.table "T" (.record "T" (("choice", .integer n) ::
      payloadEntries (k.absent "T") nameVariants ((chosen? nameVariants n).map Prod.fst) (.integer m)) true) := by
  refine .mk (s := .taggedEnum "T" nameVariants) (by decide) (.taggedEnum (by decide) hk hn) fun p hp => ?_
  obtain ⟨chosen, hch, rfl⟩ := List.mem_map.1 hp
  have hkey : chosen.2.key = "uint8" := by
    match n, hn with
    | 0, _ => cases Option.mem_toList.1 hch; rfl
    | 1, _ => cases Option.mem_toList.1 hch; rfl
  have huint8 : nameVariantCodec.table.get? "uint8" = some (.primitive (.integer false .w8)) := by decide
  rw [hkey]
  exact .mk huint8 (.primitive (.integer _ _ _)) fun _ h => nomatch h

/-- The variant that is called like an attribute is read again. -/
theorem decodeAt_encode_chosenName :
    nameVariantCodec.encode "T" (.record "T" [("choice", .integer 1), ("a", .null), ("__name__", .integer 7)] true) =
        .ok [1, 0, 0, 0, 0, 0, 0, 0, 7] ∧
      ∀ before after, nameVariantCodec.decodeAt "T" before.length (before ++ [1, 0, 0, 0, 0, 0, 0, 0, 7] ++ after) =
        .ok (.record "T" [("choice", .integer 1), ("a", .null), ("__name__", .integer 7)] true,
          ⟨before.length + 9, after⟩) := by
  have he : nameVariantCodec.encode "T" (.record "T" [("choice", .integer 1), ("a", .null), ("__name__", .integer 7)] true) =
      .ok [1, 0, 0, 0, 0, 0, 0, 0, 7] := rfl
  have h := decodeAt_encode ofRegistry_nameVariant (Registry.isNamed_of_all (by decide))
    (typed_nameVariant (k := .nulls Wire.isLength) trivial (n := 1) (m := 7) (by decide)) he
  exact ⟨he, h.1.2 (typed_nameVariant (k := .read) trivial (n := 1) (m := 7) (by decide))⟩

/-- Beside another variant it is written as null, but not read so. -/
theorem decode_encode_absentName : ofRegistry nameVariant = .ok nameVariantCodec ∧ nameVariant.IsNamed ∧
    Typed (.nulls Wire.isLength) nameVariantCodec.table "T"
      (.record "T" [("choice", .integer 0), ("a", .integer 5), ("__name__", .null)] true) ∧
    nameVariantCodec.encode "T" (.record "T" [("choice", .integer 0), ("a", .integer 5), ("__name__", .null)] true) =
      .ok [0, 0, 0, 0, 0, 0, 0, 0, 5] ∧
    nameVariantCodec.decode "T" [0, 0, 0, 0, 0, 0, 0, 0, 5] ≠
      .ok (.record "T" [("choice", .integer 0), ("a", .integer 5), ("__name__", .null)] true) := by
  refine ⟨ofRegistry_nameVariant, Registry.isNamed_of_all (by decide),
    typed_nameVariant (k := .nulls _) trivial (n := 0) (m := 5) (by decide), rfl, fun h => ?_⟩
  have hname : ((nameVariantCodec.decode "T" [0, 0, 0, 0, 0, 0, 0, 0, 5]).toOption.map fun v =>
      (getField nameVariantCodec v "__name__").toOption.map Value.isNull) = some (some false) := rfl
  rw [h] at hname
  exact absurd hname (by decide)

end Codec

end SolidityWire
