/-
The functions of a source unit. Each shape has an encoder, a decoder of parts and a decoder of wholes. Functions of
the library are told apart by their names and the types of their parameters, whatever the keys are: words that
precede keys differ in their first letters, or the decoders take different parameters. Only the decoder of a
container that is called like lengths is the decoder of lengths over again.
-/
import SolidityWire.Proofs.Solidity.Generation

namespace SolidityWire.Solidity

/-! ## Signatures of a shape -/

section Signatures

variable {s s' : Shape}

theorem mem_signatures {x : String × List String} : x ∈ signatures s ↔
    x = ("encode_" ++ s.key, [s.typeName]) ∨ x = ("decode_at_" ++ s.key, ["uint256", "bytes"]) ∨
      x = ("decode_" ++ s.key, ["bytes"]) := by
  simp [signatures]

/-- Encoders and decoders begin with different letters. -/
theorem encoder_ne_decoder {word : String} (hword : word.toList.head? = some 'd') {a b : String}
    {params params' : List String} : ("encode_" ++ a, params) ≠ (word ++ b, params') := by
  intro h
  have hletters := congrArg (·.1.toList.head?) h
  simp [String.toList_append, hword] at hletters

/-- The decoder of parts takes one parameter more. -/
theorem part_ne_whole {a b : String} : (a, ["uint256", "bytes"]) ≠ (b, ["bytes"]) := by
  simp

/-- A function tells the key that it is for. -/
theorem key_eq_of_signature {x : String × List String} (h : x ∈ signatures s) (h' : x ∈ signatures s') :
    s.key = s'.key := by
  rcases mem_signatures.1 h with rfl | rfl | rfl <;> rcases mem_signatures.1 h' with hx | hx | hx
  case inl.inl | inr.inl.inr.inl | inr.inr.inr.inr => exact (String.append_right_inj _).1 (congrArg Prod.fst hx)
  case inl.inr.inl | inl.inr.inr => exact absurd hx (encoder_ne_decoder rfl)
  case inr.inl.inl | inr.inr.inl => exact absurd hx.symm (encoder_ne_decoder rfl)
  case inr.inl.inr.inr => exact absurd hx part_ne_whole
  case inr.inr.inr.inl => exact absurd hx.symm part_ne_whole

theorem nodup_signatures (s : Shape) : (signatures s).Nodup := by
  simp only [signatures, List.nodup_cons, List.mem_cons, List.not_mem_nil, or_false, not_or, not_false_eq_true,
    List.nodup_nil, and_true]
  exact ⟨⟨encoder_ne_decoder rfl, encoder_ne_decoder rfl⟩, part_ne_whole⟩

/-- A type that is called like lengths is no array. -/
theorem typeName_of_key (h : s.key = "len") : s.typeName = "len" := by
  cases s with
  | sequence element =>
    have hletters := congrArg (·.toList.head?) h
    simp [Shape.key, String.toList_append] at hletters
  | _ => exact h

theorem encodeLength_not_mem (s : Shape) : encodeLength.signature ∉ signatures s := by
  have hx : encodeLength.signature = ("encode_" ++ "len", ["uint256"]) := rfl
  rw [hx, mem_signatures]
  rintro (h | h | h)
  · obtain ⟨hname, htype⟩ := Prod.mk.inj h
    have hkey : s.key = "len" := ((String.append_right_inj _).1 hname).symm
    rw [typeName_of_key hkey] at htype
    exact absurd htype (by decide)
  · exact encoder_ne_decoder rfl h
  · exact encoder_ne_decoder rfl h

theorem decodeLength_mem_iff : decodeLength.signature ∈ signatures s ↔ s.key = "len" := by
  have hx : decodeLength.signature = ("decode_at_" ++ "len", ["uint256", "bytes"]) := rfl
  rw [hx, mem_signatures]
  constructor
  · rintro (h | h | h)
    · exact absurd h.symm (encoder_ne_decoder rfl)
    · exact ((String.append_right_inj _).1 (congrArg Prod.fst h)).symm
    · exact absurd h part_ne_whole
  · intro h
    rw [h]
    exact Or.inr (Or.inl rfl)

end Signatures

/-! ## Signatures of a source unit -/

section Tables

variable {r : Registry} {t : Table}

theorem signatures_whole (h : r.lower.result = .ok t) (config : Config) :
    (Source.whole t config).libraryFunctions.map Function.signature = t.shapes.flatMap signatures := by
  rw [Source.libraryFunctions, declarations_whole, List.filterMap_flatMap, List.map_flatMap]
  exact List.flatMap_congr fun s hs => (declared_of_lower h hs).2.signatures

/-- Each shape has its three functions. -/
theorem exists_libraryFunction (h : r.lower.result = .ok t) (config : Config) {key word : String} (hkey : key ∈ t.keys)
    (hword : word ∈ ["encode_", "decode_at_", "decode_"]) :
    ∃ f ∈ (Source.whole t config).libraryFunctions, f.name = word ++ key := by
  obtain ⟨s, hs, rfl⟩ := List.mem_map.1 hkey
  obtain ⟨params, hparams⟩ : ∃ params, (word ++ s.key, params) ∈ signatures s := by
    simp only [List.mem_cons, List.not_mem_nil, or_false] at hword
    rcases hword with rfl | rfl | rfl
    · exact ⟨_, mem_signatures.2 (Or.inl rfl)⟩
    · exact ⟨_, mem_signatures.2 (Or.inr (Or.inl rfl))⟩
    · exact ⟨_, mem_signatures.2 (Or.inr (Or.inr rfl))⟩
  have hmem : (word ++ s.key, params) ∈ (Source.whole t config).libraryFunctions.map Function.signature := by
    rw [signatures_whole h config]
    exact List.mem_flatMap.2 ⟨s, hs, hparams⟩
  obtain ⟨f, hf, hname⟩ := List.mem_map.1 hmem
  exact ⟨f, hf, congrArg Prod.fst hname⟩

/-- No function of a library is declared twice. -/
theorem nodup_signatures_of_shapes (t : Table) : (t.shapes.flatMap signatures).Nodup := by
  rw [List.nodup_flatMap]
  refine ⟨fun s _ => nodup_signatures s, ?_⟩
  refine (List.pairwise_map.1 t.keys_nodup).imp fun {s s'} hkeys x hx hx' => ?_
  exact hkeys (key_eq_of_signature hx hx')

/-- A shape has the key of lengths exactly if a container is called so. -/
theorem len_mem_keys (h : r.lower.result = .ok t) : "len" ∈ t.keys ↔ ∃ c, ("len", c) ∈ r := by
  constructor
  · intro hkey
    obtain ⟨s, hs, hlen⟩ := List.mem_map.1 hkey
    rcases (Registry.origin_of_lower h hs).key with hc | ⟨p, rfl⟩ | hunderscore
    · rwa [hlen] at hc
    · exact absurd hlen ((by decide : ∀ p ∈ Primitive.all, p.key ≠ "len") p p.mem_all)
    · rw [hlen] at hunderscore
      exact absurd hunderscore (by decide)
  · rintro ⟨c, hc⟩
    obtain ⟨-, s, -, -, hs, -⟩ := (Registry.lowers_of_lower h).get?_name hc
    exact Table.mem_keys_iff.2 ⟨s, hs⟩

end Tables

/-! ## All functions -/

/-- For each key of a table the library has its three functions. No two functions of the library have one name and
the same types of parameters, nor do the encoder of lengths and one of them. The same is true of all functions if and
only if no container is called like lengths: the decoder of its parts would be the decoder of lengths once more. -/
theorem functions_told_apart {r : Registry} {t : Table} (h : r.lower.result = .ok t) (config : Config) :
    ∃ source, Source.ofTable t config = .ok source ∧ writeTable t config = .ok source.text ∧
      (∀ key ∈ t.keys, ∀ word ∈ ["encode_", "decode_at_", "decode_"],
        ∃ f ∈ source.libraryFunctions, f.name = word ++ key) ∧
      (encodeLength.signature :: source.libraryFunctions.map Function.signature).Nodup ∧
      ((source.allFunctions.map Function.signature).Nodup ↔ ∀ c, ("len", c) ∉ r) := by
  have hsignatures := signatures_whole h config
  have hlibrary := nodup_signatures_of_shapes t
  have hencode : encodeLength.signature ∉ t.shapes.flatMap signatures := by
    rintro hmem
    obtain ⟨s, -, hs⟩ := List.mem_flatMap.1 hmem
    exact encodeLength_not_mem s hs
  have hdecode : decodeLength.signature ∈ t.shapes.flatMap signatures ↔ ∃ c, ("len", c) ∈ r := by
    simp only [List.mem_flatMap, decodeLength_mem_iff, ← len_mem_keys h, Table.keys, List.mem_map]
  refine ⟨_, ofTable_eq h config, writeTable_eq h config, fun key hkey word hword => ?_, ?_, ?_⟩
  · exact exists_libraryFunction h config hkey hword
  · rw [hsignatures]
    exact List.nodup_cons.2 ⟨hencode, hlibrary⟩
  · have hall : (Source.whole t config).allFunctions.map Function.signature =
        encodeLength.signature :: decodeLength.signature :: t.shapes.flatMap signatures := by
      rw [← hsignatures]
      rfl
    have hlengths : encodeLength.signature ≠ decodeLength.signature := by decide
    rw [hall, ← not_exists, ← hdecode]
    simp [hencode, hlengths, hlibrary]

/-- For a pair all functions are told apart. -/
theorem functions_told_apart_pair : ∃ t source, Registry.pair.lower.result = .ok t ∧
    Source.ofTable t plain.config = .ok source ∧ (source.allFunctions.map Function.signature).Nodup := by
  obtain ⟨t, ht⟩ := lower_pair
  obtain ⟨source, hsource, -, -, -, hall⟩ := functions_told_apart ht plain.config
  refine ⟨t, source, ht, hsource, hall.2 fun c hc => ?_⟩
  have hname : "len" = "P" := congrArg Prod.fst (List.mem_singleton.1 hc)
  exact absurd hname (by decide)

/-- A struct that is called like lengths. -/
def lengthStruct : Registry :=
  [("len", .struct [("a", .primitive (.integer false .w8))])]

/-- The decoder of lengths is declared once more. -/
theorem decodeLength_twice : ∃ t source, lengthStruct.lower.result = .ok t ∧
    Source.ofTable t plain.config = .ok source ∧ decodeLength ∈ source.functions ∧
    ∃ f ∈ source.libraryFunctions, f.signature = decodeLength.signature := by
  obtain ⟨t, ht⟩ : ∃ t, lengthStruct.lower.result = .ok t := ⟨_, rfl⟩
  refine ⟨t, _, ht, ofTable_eq ht plain.config, List.mem_cons_of_mem _ List.mem_cons_self, ?_⟩
  have hkey : "len" ∈ t.keys := (len_mem_keys ht).2 ⟨_, List.mem_cons_self⟩
  obtain ⟨s, hs, hlen⟩ := List.mem_map.1 hkey
  have hmem : decodeLength.signature ∈ (Source.whole t plain.config).libraryFunctions.map Function.signature := by
    rw [signatures_whole ht]
    exact List.mem_flatMap.2 ⟨s, hs, decodeLength_mem_iff.2 hlen⟩
  exact List.mem_map.1 hmem

end SolidityWire.Solidity
