/-
The names of a decoder of parts: its parameters, the variables that it has for itself, and one for each field of a
struct or payload of an enumeration. A field that has a name of the decoder or of a type gets an underscore, so that
all names are distinct unless the field with the underscore is there as well and keeps its name.
-/
import SolidityWire.Proofs.Solidity.Generation
import SolidityWire.Proofs.Text.Underscore

namespace SolidityWire

/-! ## Fields that are decoded -/

/-- The fields that a decoder reads one after the other, each into a variable of its own. -/
def Shape.decodedFields : Shape → List String
  | struct _ fields => fields.map Prod.fst
  | taggedEnum _ variants => payloadFields variants
  | _ => []

/-- The names that the decoder of a struct or of an enumeration with payloads has for itself. -/
def Shape.decoderOwnNames : Shape → List String
  | taggedEnum _ _ => ["pos", "input", "new_pos", "choice"]
  | _ => ["pos", "input", "new_pos"]

/-- Whether the shape is a struct or an enumeration with payloads. -/
def Shape.isRecord : Shape → Bool
  | struct _ _ | taggedEnum _ _ => true
  | _ => false

namespace Solidity

/-- Whether a local variable cannot be called like a field. -/
def Taken (t : Table) (field : String) : Prop :=
  field ∈ decoderNames ∨ field ∈ t.keys

section Names

variable {t : Table} {field : String}

/-- A variable is called like its field, with an underscore if the field is taken. -/
theorem underscores_localName (t : Table) : Text.Underscores (Taken t) (localName t) where
  of_taken h := by
    unfold localName
    rw [if_pos]
    simpa [Taken, List.contains_iff_mem, Table.contains_iff] using h
  of_free h := by
    unfold localName
    rw [if_neg]
    simpa [Taken, List.contains_iff_mem, Table.contains_iff] using h

/-- None of the names that decoders have for themselves ends in an underscore. -/
theorem append_underscore_not_mem (field : String) : field ++ "_" ∉ decoderNames := by
  have hlast : ∀ name ∈ decoderNames, name.toList.getLast? ≠ some '_' := by decide
  intro h
  exact hlast _ h (by simp [String.toList_append])

/-- No variable of a field is called like one that the decoder has for itself. -/
theorem localName_not_mem (t : Table) (field : String) : localName t field ∉ decoderNames := by
  by_cases h : Taken t field
  · rw [(underscores_localName _).of_taken h]
    exact append_underscore_not_mem field
  · rw [(underscores_localName _).of_free h]
    exact fun hmem => h (Or.inl hmem)

/-- The variables of distinct fields are distinct unless a field that is taken meets the one with an underscore
more, which is not. -/
theorem nodup_localNames {fields : List String} (hnodup : fields.Nodup) :
    (fields.map (localName t)).Nodup ↔
      ∀ field ∈ fields, Taken t field → field ++ "_" ∈ fields → field ++ "_" ∈ t.keys := by
  have hkeys : ∀ field, Taken t (field ++ "_") ↔ field ++ "_" ∈ t.keys := fun field =>
    or_iff_right (append_underscore_not_mem field)
  simp only [(underscores_localName t).nodup_map hnodup, hkeys]

/-- A variable is called like a type exactly if the field is taken, and the name with the underscore as well. -/
theorem localName_mem_keys : localName t field ∈ t.keys ↔ Taken t field ∧ field ++ "_" ∈ t.keys := by
  by_cases h : Taken t field
  · rw [(underscores_localName _).of_taken h]
    simp [h]
  · rw [(underscores_localName _).of_free h]
    exact ⟨fun hmem => absurd (Or.inr hmem) h, fun h' => absurd h'.1 h⟩

end Names

/-! ## The decoder of a shape -/

/-- The function decodes a shape at a position, and has the variables that the shape gives it. -/
structure DecodesParts (t : Table) (s : Shape) (f : Function) : Prop where
  name : f.name = "decode_at_" ++ s.key
  parameters : f.parameters = decoderParameters
  names : f.parameters.map Variable.name ++ f.locals = s.decoderOwnNames ++ s.decodedFields.map (localName t)

section Decoders

variable {r : Registry} {t : Table}

theorem exists_structDecoder {name : String} {fields : List (String × Shape)} (hne : fields ≠ [])
    (h : ∀ child ∈ fields.map Prod.snd, ∃ place, placeOf t child = .ok place) :
    ∃ main, structDeclarations t name fields = .ok main ∧
      ∃ f, .function f ∈ main ∧ DecodesParts t (.struct name fields) f := by
  obtain ⟨decoded, hdecoded, hlocals⟩ := exists_decodeFields h
  cases fields with
  | nil => exact absurd rfl hne
  | cons field rest =>
    rw [structDeclarations, hdecoded, ok_bind]
    refine ⟨_, rfl, _, List.mem_cons_of_mem _ (List.mem_cons_of_mem _ List.mem_cons_self), rfl, rfl, ?_⟩
    simp [decoderParameters, inputBytes, Function.locals, samePosition, hlocals, Shape.decoderOwnNames,
      Shape.decodedFields]

theorem exists_taggedDecoder {name : String} {variants : List (String × Option String × Option Shape)}
    (hpaired : (Shape.taggedEnum name variants).Paired)
    (h : ∀ child ∈ (Shape.payloads variants).map Prod.snd, ∃ place, placeOf t child = .ok place) :
    ∃ main, taggedEnumDeclarations t name variants = .ok main ∧
      ∃ f, .function f ∈ main ∧ DecodesParts t (.taggedEnum name variants) f := by
  obtain ⟨payloads, hpayloads, hfields, hall⟩ := exists_fieldPayloads 0 hpaired h
  obtain ⟨decoded, hdecoded, hlocals⟩ := exists_decodePayloads hall
  rw [taggedEnumDeclarations, hpayloads, ok_bind, hdecoded]
  refine ⟨_, rfl, _, List.mem_cons_of_mem _ (List.mem_cons_of_mem _ List.mem_cons_self), rfl, rfl, ?_⟩
  simp [decoderParameters, inputBytes, Function.locals, newPosition, hlocals, hfields, Shape.decoderOwnNames,
    Shape.decodedFields]

/-- Each struct and each enumeration with payloads has its decoder. -/
theorem exists_decoder (h : r.lower.result = .ok t) {s : Shape} (hs : s ∈ t.shapes) (hrecord : s.isRecord = true) :
    ∃ f, .function f ∈ groupOf t s ∧ DecodesParts t s f := by
  have hmain : ∃ main, mainDeclarations t s = .ok main ∧ ∃ f, .function f ∈ main ∧ DecodesParts t s f := by
    have hplaces := exists_place_child h hs
    cases s with
    | struct name fields => exact exists_structDecoder (hasFields_of_lower h hs).1 hplaces
    | taggedEnum name variants => exact exists_taggedDecoder (Registry.origin_of_lower h hs).paired hplaces
    | _ => cases hrecord
  obtain ⟨main, hmain, f, hf, hdecodes⟩ := hmain
  have hgroup := (declared_of_lower h hs).1
  rw [declarations, hmain, ok_bind] at hgroup
  obtain ⟨place, -, hgroup⟩ := bind_eq_ok.1 hgroup
  exact ⟨f, Except.ok.inj hgroup ▸ List.mem_append_left _ hf, hdecodes⟩

/-- The fields that are decoded have distinct names. -/
theorem nodup_decodedFields (h : r.lower.result = .ok t) {s : Shape} (hs : s ∈ t.shapes) : s.decodedFields.Nodup := by
  have hfields := hasFields_of_lower h hs
  cases s with
  | struct _ _ => exact hfields.2
  | taggedEnum _ _ => exact (List.nodup_cons.1 hfields.2).2
  | _ => exact List.nodup_nil

theorem decoderOwnNames_subset (s : Shape) : s.decoderOwnNames ⊆ decoderNames := by
  cases s with
  | taggedEnum _ _ => exact (by decide : ["pos", "input", "new_pos", "choice"] ⊆ decoderNames)
  | _ => exact (by decide : ["pos", "input", "new_pos"] ⊆ decoderNames)

theorem nodup_decoderOwnNames (s : Shape) : s.decoderOwnNames.Nodup := by
  cases s with
  | taggedEnum _ _ => exact (by decide : ["pos", "input", "new_pos", "choice"].Nodup)
  | _ => exact (by decide : ["pos", "input", "new_pos"].Nodup)

/-- The names of a decoder are distinct exactly if those of its variables for fields are. -/
theorem nodup_names_iff {s : Shape} {f : Function} (hf : DecodesParts t s f) :
    (f.parameters.map Variable.name ++ f.locals).Nodup ↔ (s.decodedFields.map (localName t)).Nodup := by
  rw [hf.names, List.nodup_append]
  refine ⟨fun h => h.2.1, fun h => ⟨nodup_decoderOwnNames s, h, fun name hname local' hlocal he => ?_⟩⟩
  obtain ⟨field, -, rfl⟩ := List.mem_map.1 hlocal
  exact localName_not_mem t field (he ▸ decoderOwnNames_subset s hname)

end Decoders

/-! ## Distinct names -/

/-- The decoder of each struct and of each enumeration with payloads has the names that it has for itself, and one
for each field. They are distinct if and only if no field that has a name of the decoders or of a type meets the
field with an underscore more, unless that is the name of a type as well; and no variable of a field has the name of
a type if and only if no such field gets one from the underscore. -/
theorem locals_distinct_iff {r : Registry} {t : Table} (h : r.lower.result = .ok t) (config : Config) :
    ∃ source, Source.ofTable t config = .ok source ∧ writeTable t config = .ok source.text ∧
      ∀ s ∈ t.shapes, s.isRecord = true → ∃ f ∈ source.libraryFunctions, DecodesParts t s f ∧
        ((f.parameters.map Variable.name ++ f.locals).Nodup ↔ ∀ field ∈ s.decodedFields, Taken t field →
          field ++ "_" ∈ s.decodedFields → field ++ "_" ∈ t.keys) ∧
        ((∀ name ∈ s.decodedFields.map (localName t), name ∉ t.keys) ↔
          ∀ field ∈ s.decodedFields, Taken t field → field ++ "_" ∉ t.keys) := by
  refine ⟨_, ofTable_eq h config, writeTable_eq h config, fun s hs hrecord => ?_⟩
  obtain ⟨f, hmem, hf⟩ := exists_decoder h hs hrecord
  refine ⟨f, ?_, hf, (nodup_names_iff hf).trans (nodup_localNames (nodup_decodedFields h hs)), ?_⟩
  · rw [Source.libraryFunctions, declarations_whole]
    exact List.mem_filterMap.2 ⟨_, List.mem_flatMap.2 ⟨s, hs, hmem⟩, rfl⟩
  · simp only [List.forall_mem_map, localName_mem_keys, not_and]

/-- In the decoder of a pair all names are distinct. -/
theorem locals_distinct_iff_pair : ∃ t source, Registry.pair.lower.result = .ok t ∧
    Source.ofTable t plain.config = .ok source ∧ ∃ f ∈ source.libraryFunctions, f.name = "decode_at_P" ∧
      (f.parameters.map Variable.name ++ f.locals).Nodup := by
  obtain ⟨t, ht⟩ := lower_pair
  obtain ⟨source, hsource, -, hall⟩ := locals_distinct_iff ht plain.config
  obtain ⟨s, hs, hshape⟩ := (Registry.lowers_of_lower ht).exists_shape (List.mem_singleton_self _)
  cases hshape
  obtain ⟨f, hf, hdecodes, hnodup, -⟩ := hall _ hs rfl
  refine ⟨t, source, ht, hsource, f, hf, hdecodes.name, hnodup.2 fun field hfield _ hmem => ?_⟩
  have hapart : ∀ field ∈ ["x", "y"], field ++ "_" ∉ ["x", "y"] := by decide
  exact absurd hmem (hapart field hfield)

/-- A struct with a field that is called like a parameter of the decoders, and one with an underscore more. -/
def positions : Registry :=
  [("P", .struct [("pos", .primitive (.integer false .w8)), ("pos_", .primitive (.integer false .w8))])]

/-- The decoder has two variables of one name. -/
theorem local_twice : ∃ t source, positions.lower.result = .ok t ∧ Source.ofTable t plain.config = .ok source ∧
    ∃ f ∈ source.libraryFunctions, f.name = "decode_at_P" ∧ f.locals = ["new_pos", "pos_", "pos_"] := by
  obtain ⟨t, ht, hkeys⟩ : ∃ t, positions.lower.result = .ok t ∧ t.keys = ["uint8", "P"] := ⟨_, rfl, rfl⟩
  obtain ⟨s, hs, hshape⟩ := (Registry.lowers_of_lower ht).exists_shape (List.mem_singleton_self _)
  cases hshape
  obtain ⟨f, hmem, hf⟩ := exists_decoder ht hs rfl
  refine ⟨t, _, ht, ofTable_eq ht plain.config, f, ?_, hf.name, ?_⟩
  · rw [Source.libraryFunctions, declarations_whole]
    exact List.mem_filterMap.2 ⟨_, List.mem_flatMap.2 ⟨_, hs, hmem⟩, rfl⟩
  · have htaken : localName t "pos" = "pos_" := (underscores_localName _).of_taken (Or.inl (by decide))
    have hfree : localName t "pos_" = "pos_" := by
      refine (underscores_localName _).of_free ?_
      rw [Taken, hkeys]
      decide
    have hsafe : safeName "pos" = "pos" ∧ safeName "pos_" = "pos_" := by decide +kernel
    have hnames := hf.names
    rw [hf.parameters] at hnames
    simpa [decoderParameters, inputBytes, Shape.decoderOwnNames, Shape.decodedFields, fieldShapes, hsafe, htaken,
      hfree] using hnames

end Solidity

end SolidityWire
