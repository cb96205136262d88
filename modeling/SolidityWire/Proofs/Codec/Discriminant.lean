/-
What tells the variants of an enumeration apart on the wire: not their indices but their ranks, the number of
variants with a lower index. The rank of a variant is written in one byte if no variant carries anything, and
in eight bytes before what the variant carries otherwise; it is read back as the variant, and a number that is
no rank is refused. Ranks are the indices exactly if the indices count up from zero.
-/
import SolidityWire.Proofs.Codec.Reference
import SolidityWire.Proofs.Codec.Served

namespace SolidityWire

open Codec GeneratedType Plan

variable {r : Registry} {t : Table}

namespace Codec

/-! ## Numbers -/

variable {c : Codec} {key : String} {s : Shape}

/-- A number that stands before the rest is read. -/
theorem read_number {width : IntWidth} {n : Nat} {e : List UInt8}
    (he : Wire.encode (.integer false width) (.integer n) = .ok e) (position : Nat) (rest : List UInt8) :
    read (Integer.decode false width.bytes) ⟨position, e ++ rest⟩ = .ok ((n : Int), ⟨position + e.length, rest⟩) :=
  (decode_unsigned_accepts width rfl _ _ _).2 ⟨e, ⟨n, rfl, he⟩, Cursor.past_mk⟩

/-! ## Simple enumerations -/

variable {name : String} {names : List String} {enum : EnumType} {before after : List UInt8}

/-- A member is written as its ordinal in one byte, if its type tells ordinals. -/
theorem encode_member (hs : c.table.get? name = some (.simpleEnum name names))
    (hf : c.function name = .ok (.simpleEnum name names)) (he : EnumType.ofNames (Text.asciiName name) names = .ok enum)
    {n : Nat} {variant : String} (hn : enum.member? n = some variant) {e : List UInt8} :
    c.encode name (.member name variant n) = .ok e ↔
      enum.hasAttribute "__int__" = false ∧ n < 256 ∧ e = [n.toUInt8] := by
  have hentry : c.entry name = .ok (.simpleEnum name names) := (entry_of_mem (Table.mem_keys_iff.2 ⟨_, hs⟩)).trans hf
  unfold encode
  rw [hentry, ok_bind, exists_depth, encodeShape, encodeMember_eq_ok he hn, Wire.encode_ordinal]

/-- One byte is read as the member with its ordinal. -/
theorem decodeAt_member (hs : c.table.get? name = some (.simpleEnum name names))
    (hf : c.function name = .ok (.simpleEnum name names)) (he : EnumType.ofNames (Text.asciiName name) names = .ok enum)
    (b : UInt8) : c.decodeAt name before.length (before ++ b :: after) = match enum.member? b.toNat with
      | some variant => .ok (.member name variant b.toNat, ⟨before.length + 1, after⟩)
      | none => .error (noMember c.edition enum (.decode (.notMember b.toNat (Text.asciiName name)))) := by
  have hnumber : Wire.encode (.integer false .w8) (.integer (b.toNat : Int)) = .ok [b] :=
    Wire.encode_ordinal.2 ⟨b.toNat_lt, by simp⟩
  have hread := read_number hnumber before.length after
  rw [decodeAt_of_function (Table.mem_keys_iff.2 ⟨_, hs⟩) hf, exists_depth, decodeShape]
  change (read (Integer.decode false IntWidth.w8.bytes) ⟨before.length, [b] ++ after⟩ >>= _) = _
  rw [hread, ok_bind]
  simp only [decodedMember, he, Int.toNat_natCast, mapError_ok, ok_bind]
  cases enum.member? b.toNat <;> rfl

/-! ## Tagged enumerations -/

variable {vs : List IndexedVariant} {v : IndexedVariant}

/-- An enumeration of the registry has variants. -/
theorem ne_nil_of_lowers {t : Table} (hl : r.Lowers t) (hc : (name, .enum vs) ∈ r) : vs ≠ [] := by
  rintro rfl
  obtain ⟨_, _, hgives, -⟩ := hl.body name _ hc
  exact (gives_stop hgives).elim

/-- A simple and a tagged enumeration whose indices do not count up from zero. -/
def gapped : Registry :=
  [("E", .enum [⟨3, "A", .unit⟩, ⟨7, "B", .unit⟩]),
    ("T", .enum [⟨-4, "A", .unit⟩, ⟨9, "B", .newType (.primitive (.integer false .w8))⟩])]

/-- The variants of the tagged one in the table. -/
def gappedVariants : Variants :=
  [("A", none, none), ("B", some "b", some (.primitive (.integer false .w8)))]

/-- Its codec. -/
def gappedCodec : Codec where
  table :=
    { shapes := [.simpleEnum "E" ["A", "B"], .primitive (.integer false .w8), .primitive (.integer false .w64),
        .taggedEnum "T" gappedVariants]
      keys_nodup := by decide
      not_reference := by decide }
  functions := [("T", .taggedEnum "T" gappedVariants), ("uint64", .primitive (.integer false .w64)),
    ("uint8", .primitive (.integer false .w8)), ("E", .simpleEnum "E" ["A", "B"])]

theorem ofRegistry_gapped : ofRegistry gapped = .ok gappedCodec :=
  ofRegistry_eq_ok (by decide +kernel)

end Codec

end SolidityWire
