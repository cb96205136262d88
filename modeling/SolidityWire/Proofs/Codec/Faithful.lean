/-
Encoding under the key of a format is the reference encoding of the format, for values of the generated types.
Nothing is lost between the registry and the codec: not where shapes share a table, nor where functions are
found by key. Only members are not written whose enumeration has a name in the place of the function which tells
ordinals, and tagged records whose type has a field in the place of the operation which reads fields.
-/
import SolidityWire.Proofs.Codec.Canonical
import SolidityWire.Proofs.Codec.Reference

namespace SolidityWire.Codec

/-- What is written under the key is the reference encoding of the format, as far as members tell their ordinals
and tagged records can be looked into. -/
def Faithful (r : Registry) (c : Codec) (f : Format) (key : String) : Prop :=
  ∀ v e, Typed (.nulls fun _ => True) c.table key v →
    (c.encode key v = .ok e ↔
      r.Encodes f v e ∧ Typed (Convention.nulls fun _ => True).telling c.table key v) ∧
    (c.table.Telling (.nulls fun _ => True) → (c.encode key v = .ok e ↔ r.Encodes f v e))

theorem faithful_of_agrees {r : Registry} {c : Codec} (hs : c.Sound) (ht : c.table.Definite) {f : Format} {key : String}
    (h : ∀ k, Agrees r k c.table f key) : Faithful r c f key := by
  intro v e hv
  have encoded : c.encode key v = .ok e → r.Encodes f v e := fun he =>
    (h _ v e hv).1 ((codes_of_encode hs hv he).mono (Convention.telling_le _))
  refine ⟨⟨fun he => ⟨encoded he, (codes_of_encode hs hv he).typed⟩, fun ⟨he, htells⟩ => ?_⟩,
    fun htells => ⟨encoded, fun he => ?_⟩⟩
  · exact encode_of_codes hs ht ((h _ v e htells).2 he)
  · exact encode_of_codes hs ht (((h _ v e hv).2 he).telling htells)

/-- Every format that occurs, and every container, is written as the registry means it. -/
theorem faithful {r : Registry} {edition : Edition} {c : Codec} (hc : ofRegistry r edition = .ok c) (hr : r.IsNamed)
    (hd : r.Declares) (ho : r.Ordered) :
    (∀ f, r.Occurs f → ∃ s, f.plan.result = .ok s ∧ Faithful r c f s.key) ∧
      ∀ name container, (name, container) ∈ r → Faithful r c (.typeName name) name := by
  obtain ⟨hl, hs⟩ := sound_of_ofRegistry hc hr
  have ht := hl.definite hd
  refine ⟨fun f hocc => ?_, fun name container hmem => ?_⟩
  · obtain ⟨inner, s, hgives, hsub⟩ := hl.planned hocc
    exact ⟨s, hgives.result, faithful_of_agrees hs ht fun k => agrees_of_occurs hl hs.made hd ho hocc hgives hsub⟩
  · refine faithful_of_agrees hs ht fun k => agrees_typeName hl hs.made ht ho hmem ?_
    exact fun f inner s hocc hgives hsub _ => agrees_of_occurs hl hs.made hd ho hocc hgives hsub

/-! ## A variant in the place of a function -/

theorem ordered_intVariant : intVariant.Ordered :=
  Registry.ordered_of_all (by decide)

/-- The member of the other enumeration is written by its rank. -/
theorem faithful_plainMember :
    intVariant.Encodes (.typeName "O") (.member "O" "A" 0) [0] ∧
      intVariantCodec.encode "O" (.member "O" "A" 0) = .ok [0] := by
  have ht : EnumType.ofNames (Text.asciiName "O") ["A"] = .ok ⟨[("A", 0)], [], 0⟩ := rfl
  have hv : Typed (Convention.nulls fun _ => True).telling intVariantCodec.table "O" (.member "O" "A" 0) :=
    .mk (s := .simpleEnum "O" ["A"]) (by decide) (.simpleEnum ht ⟨trivial, rfl⟩ rfl) fun _ h => nomatch h
  have he : intVariant.Encodes (.typeName "O") (.member "O" "A" 0) [0] :=
    @Registry.Encodes.simpleEnum intVariant "O" "O" [⟨0, "A", .unit⟩] ⟨0, "A", .unit⟩ (by simp [intVariant]) rfl
      List.mem_cons_self (by decide)
  have h := (faithful ofRegistry_intVariant (Registry.isNamed_of_all (by decide)) declares_intVariant
    ordered_intVariant).2 "O" (.enum [⟨0, "A", .unit⟩]) (by simp [intVariant])
  exact ⟨he, (h _ _ (hv.mono (Convention.telling_le _))).1.2 ⟨he, hv⟩⟩

/-- A member of the one has a reference encoding, but is not written. -/
theorem not_faithful_intVariant : ofRegistry intVariant = .ok intVariantCodec ∧ intVariant.IsNamed ∧
    intVariant.Declares ∧ Typed (.nulls fun _ => True) intVariantCodec.table "E" (.member "E" "A" 1) ∧
    intVariant.Encodes (.typeName "E") (.member "E" "A" 1) [1] ∧
    intVariantCodec.encode "E" (.member "E" "A" 1) ≠ .ok [1] := by
  refine ⟨ofRegistry_intVariant, isNamed_intVariant, declares_intVariant, ?_, ?_, encode_intVariant_ne⟩
  · exact .mk (s := .simpleEnum "E" ["__int__", "A"]) (by decide) (.simpleEnum ofNames_intVariant trivial rfl)
      fun _ h => nomatch h
  · exact @Registry.Encodes.simpleEnum intVariant "E" "E" [⟨0, "__int__", .unit⟩, ⟨1, "A", .unit⟩] ⟨1, "A", .unit⟩
      (by simp [intVariant]) rfl (by simp) (by decide)

end SolidityWire.Codec
