/-
Which registries have a codec. A registry that cannot be lowered has neither a source nor a codec, and for the same
reason. A registry that can be lowered has a source, and it has a codec exactly if the names of its shapes can be
those of generated types; a codec that there is serves all keys of the table and no others.
-/
import SolidityWire.Proofs.Codec.Refusal
import SolidityWire.Proofs.Codec.Served
import SolidityWire.Proofs.Codec.Types
import SolidityWire.Proofs.Solidity.Generation

namespace SolidityWire

open Codec

/-! ## Keys in refusals -/

/-- The key can stand in the words of refusals. -/
structure Codec.IsQuotable (key : String) : Prop where
  encoded : Text.hasLoneHalf key = false
  written : '\x00' ∉ key.toList
  read : ∃ refusal, Refusal.ofKey key = .ok refusal

/-- No character of a name is half of one that is written as two. -/
theorem Text.IsName.hasLoneHalf_eq {key : String} (h : Text.IsName key) : Text.hasLoneHalf key = false := by
  unfold Text.hasLoneHalf
  rw [List.any_eq_false]
  intro c hc
  have hlt := Text.toNat_lt_of_isNameChar (h c hc)
  simp only [Text.isLoneHalf, Bool.and_eq_true, decide_eq_true_eq]
  omega

namespace Codec

theorem isQuotable_of_isName {key : String} (h : Text.IsName key) : IsQuotable key where
  encoded := h.hasLoneHalf_eq
  written hmem := absurd (h _ hmem) (by decide)
  read := ⟨_, Refusal.ofKey_of_isLiteral (Refusal.isLiteral_of_isName h)⟩

theorem refusalFault?_eq_none {keys : List String} : refusalFault? keys = none ↔ ∀ key ∈ keys, IsQuotable key := by
  unfold refusalFault?
  rw [ite_some_eq_none, ite_some_eq_none, List.findSome?_eq_none_iff]
  constructor
  · rintro ⟨hencoded, hwritten, hread⟩ key hkey
    refine ⟨?_, ?_, ?_⟩
    · exact Bool.eq_false_iff.2 fun hhalf => hencoded (List.any_eq_true.2 ⟨key, hkey, hhalf⟩)
    · exact fun hzero => hwritten (List.any_eq_true.2 ⟨key, hkey, List.contains_iff_mem.2 hzero⟩)
    · have hof := hread key hkey
      cases hkeyOf : Refusal.ofKey key with
      | error m => rw [hkeyOf] at hof; cases hof
      | ok refusal => exact ⟨refusal, rfl⟩
  · intro h
    refine ⟨fun hany => ?_, fun hany => ?_, fun key hkey => ?_⟩
    · obtain ⟨key, hkey, hhalf⟩ := List.any_eq_true.1 hany
      exact Bool.false_ne_true ((h key hkey).encoded.symm.trans hhalf)
    · obtain ⟨key, hkey, hzero⟩ := List.any_eq_true.1 hany
      exact (h key hkey).written (List.contains_iff_mem.1 hzero)
    · obtain ⟨refusal, hof⟩ := (h key hkey).read
      rw [hof]

theorem mem_refusalKeys {shapes : List Shape} {key : String} :
    key ∈ refusalKeys shapes ↔ ∃ variants, .taggedEnum key variants ∈ shapes := by
  unfold refusalKeys
  rw [List.mem_filterMap]
  constructor
  · rintro ⟨s, hs, hkey⟩
    split at hkey
    · cases hkey
      exact ⟨_, hs⟩
    · cases hkey
  · rintro ⟨variants, hs⟩
    exact ⟨_, hs, rfl⟩

theorem typeFault?_eq_none {shapes : List Shape} : typeFault? shapes = none ↔ ∀ s ∈ shapes, s.Made := by
  unfold typeFault?
  rw [List.findSome?_eq_none_iff]
  refine forall₂_congr fun s _ => ?_
  unfold Shape.Made
  cases GeneratedType.ofShape? s with
  | none => simp
  | some made => cases made <;> simp

end Codec

/-! ## Names of shapes -/

namespace Shape

/-- The names of the shape can be those of its type, and its key can stand in the refusals of a choice. -/
def WellNamed : Shape → Prop
  | struct _ fields => AreFields (fields.map Prod.fst)
  | simpleEnum key names => AreMembers (Text.asciiName key) names
  | taggedEnum key variants => (AreFields (taggedFields variants) ∧
      ∀ name ∈ spoilingNames, name ∉ taggedFields variants) ∧ IsQuotable key
  | _ => True

theorem made_iff_of_record {s : Shape} {t : RecordType}
    (hs : GeneratedType.ofShape? s = some (GeneratedType.ofRecord t)) : s.Made ↔ t.WellNamed := by
  rw [← RecordType.fault?_eq_none, Made, hs]
  unfold GeneratedType.ofRecord
  cases t.fault? <;> simp

theorem structRecord_names (key : String) (fields : List (String × Shape)) :
    (GeneratedType.structRecord key fields).names = (fields.map Prod.fst).map fieldName := by
  rw [RecordType.names, GeneratedType.structRecord, List.map_map, List.map_map]
  rfl

theorem taggedRecord_names (key : String) (variants : List (String × Option String × Option Shape)) :
    (GeneratedType.taggedRecord key variants).names = (taggedFields variants).map fieldName := by
  have hchoice : fieldName "choice" = "choice" := (fieldName_of_spoken "choice" (by decide)).1
  rw [RecordType.names, GeneratedType.taggedRecord, taggedFields, List.map_cons, List.map_cons, List.map_map, hchoice]
  rfl

/-- The names that no schema gives can be those of records. -/
theorem wellNamed_of_fixed : GeneratedType.boxRecord.WellNamed ∧ GeneratedType.arrayRecord.WellNamed := by
  have hwords : ∀ name ∈ ["has_value", "value", "values"], Text.IsWord name ∧ name ∉ Formula.keywords := by
    decide +kernel
  have hfields : ∀ names ⊆ ["has_value", "value", "values"], AreFields names := fun names hnames =>
    (areFields_iff_of_words fun name hname => (hwords name (hnames hname)).1).2 fun name hname hword =>
      absurd hword (hwords name (hnames hname)).2
  have hbox : GeneratedType.boxRecord.names = ["has_value", "value"].map fieldName := by decide +kernel
  have harray : GeneratedType.arrayRecord.names = ["values"].map fieldName := by decide +kernel
  exact ⟨(Codec.wellNamed_iff hbox (by decide)).2 ⟨hfields _ (by decide), fun hown => nomatch hown⟩,
    (Codec.wellNamed_iff harray (by decide)).2 ⟨hfields _ (by decide), fun hown => nomatch hown⟩⟩

/-- A shape has a type that can be made, and functions that can be written, exactly if it is well named. -/
theorem wellNamed_iff {s : Shape} (h : s.HasFields) :
    s.WellNamed ↔ s.Made ∧ ∀ key variants, s = .taggedEnum key variants → IsQuotable key := by
  cases s with
  | primitive _ | reference _ | sequence _ =>
    refine iff_of_true trivial ⟨?_, by rintro _ _ ⟨⟩⟩
    rintro _ ⟨⟩
  | option value =>
    refine iff_of_true trivial ⟨?_, by rintro _ _ ⟨⟩⟩
    by_cases hboxed : isBoxed (.option value) = true
    · exact (made_iff_of_record (by rw [GeneratedType.ofShape?, if_pos hboxed])).2 wellNamed_of_fixed.1
    · intro m
      rw [GeneratedType.ofShape?, if_neg hboxed]
      rintro ⟨⟩
  | array _ _ => exact iff_of_true trivial ⟨(made_iff_of_record rfl).2 wellNamed_of_fixed.2, by rintro _ _ ⟨⟩⟩
  | struct key fields =>
    rw [made_iff_of_record rfl, Codec.wellNamed_iff (structRecord_names key fields) h.2]
    constructor
    · intro hfields
      exact ⟨⟨hfields, by rintro ⟨⟩⟩, by rintro _ _ ⟨⟩⟩
    · intro hall
      exact hall.1.1
  | simpleEnum key names =>
    refine EnumType.exists_ofNames_iff.symm.trans ⟨?_, fun hall => hall.1.simpleEnum⟩
    rintro ⟨t, ht⟩
    refine ⟨fun m => ?_, by rintro _ _ ⟨⟩⟩
    rw [GeneratedType.ofShape?, ht]
    rintro ⟨⟩
  | taggedEnum key variants =>
    rw [made_iff_of_record rfl, Codec.wellNamed_iff (taggedRecord_names key variants) h.2]
    constructor
    · rintro ⟨⟨hfields, hfree⟩, hkey⟩
      exact ⟨⟨hfields, fun _ => hfree⟩, fun _ _ he => (Shape.taggedEnum.inj he).1 ▸ hkey⟩
    · rintro ⟨⟨hfields, hfree⟩, hkey⟩
      exact ⟨⟨hfields, hfree rfl⟩, hkey key variants rfl⟩

/-- The names that a schema gives to what a shape has: its fields, or its members. -/
def givenNames : Shape → List String
  | struct _ fields => fields.map Prod.fst
  | simpleEnum _ names => names
  | taggedEnum _ variants => taggedFields variants
  | _ => []

/-- Two names of the shape become one in its type, or one of them is in the way of what the type has for itself. -/
def Clashes : Shape → Prop
  | simpleEnum _ names => ¬names.Nodup ∨ "mro" ∈ names
  | s => ∃ name ∈ s.givenNames, name ∈ Formula.keywords ∧ name ++ "_" ∈ s.givenNames

/-- If all names are words, a shape is well named unless a keyword meets itself with an underscore behind it, or two
variants have one name, or a variant is called like an operation of types. -/
theorem wellNamed_iff_of_words {s : Shape} (hkey : Text.IsName s.key) (h : ∀ name ∈ s.givenNames, Text.IsWord name) :
    s.WellNamed ↔ ¬s.Clashes := by
  cases s with
  | primitive _ | reference _ | sequence _ | option _ | array _ _ =>
    exact iff_of_true trivial fun ⟨_, hname, _⟩ => nomatch hname
  | struct _ _ =>
    refine (areFields_iff_of_words h).trans ?_
    simp only [Clashes, not_exists, not_and]
  | simpleEnum _ names =>
    have hclashes : ¬(¬names.Nodup ∨ "mro" ∈ names) ↔ names.Nodup ∧ "mro" ∉ names := by rw [not_or, not_not]
    exact (areMembers_iff_of_words h).trans hclashes.symm
  | taggedEnum _ variants =>
    have hhidden : ∀ name ∈ spoilingNames, name.toList.head? = some '_' := by decide
    have hfree : ∀ name ∈ spoilingNames, name ∉ taggedFields variants := fun name hname hmem =>
      (h name hmem).head?_ne (hhidden name hname)
    refine (and_iff_left (isQuotable_of_isName hkey)).trans ((and_iff_left hfree).trans ?_)
    refine (areFields_iff_of_words h).trans ?_
    simp only [Clashes, not_exists, not_and]

end Shape

namespace Codec

/-- There is a codec of a table exactly if all its shapes are well named. -/
theorem exists_ofTable_iff {t : Table} (h : ∀ s ∈ t.shapes, s.HasFields) (edition : Edition) :
    (∃ c, ofTable t edition = .ok c) ↔ ∀ s ∈ t.shapes, s.WellNamed := by
  have hchecks : (∃ c, ofTable t edition = .ok c) ↔
      typeFault? t.shapes = none ∧ refusalFault? (refusalKeys t.shapes) = none := by
    unfold ofTable
    rw [← Option.or_eq_none_iff]
    cases (typeFault? t.shapes).or (refusalFault? (refusalKeys t.shapes)) <;> simp
  rw [hchecks, typeFault?_eq_none, refusalFault?_eq_none]
  constructor
  · rintro ⟨hmade, hquotable⟩ s hs
    refine (Shape.wellNamed_iff (h s hs)).2 ⟨hmade s hs, ?_⟩
    rintro key variants rfl
    exact hquotable key (mem_refusalKeys.2 ⟨variants, hs⟩)
  · intro hall
    refine ⟨fun s hs => ((Shape.wellNamed_iff (h s hs)).1 (hall s hs)).1, fun key hkey => ?_⟩
    obtain ⟨variants, hs⟩ := mem_refusalKeys.1 hkey
    exact ((Shape.wellNamed_iff (h _ hs)).1 (hall _ hs)).2 key variants rfl

section Registries

variable {r : Registry}

theorem ofRegistry_of_lower {t : Table} (h : r.lower.result = .ok t) (edition : Edition) :
    ofRegistry r edition = ofTable t edition := by
  rw [ofRegistry, h]
  rfl

end Registries

/-- A struct whose fields are a keyword, and the same word with an underscore behind it. -/
def keywords : Registry :=
  [("A", .struct [("class", .primitive (.integer false .w8)), ("class_", .primitive (.integer false .w8))])]

end Codec

end SolidityWire
