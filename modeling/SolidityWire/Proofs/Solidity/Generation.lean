/-
What becomes of a registry: its library is written with one write, or there is a reason against it and nothing is
written. Whatever table a registry has, each of its shapes has its declarations, so that no table fails to be
written.
-/
import SolidityWire.Proofs.Shape.Order
import SolidityWire.Proofs.Solidity.Declared

namespace SolidityWire.Solidity

/-! ## The source unit of a table -/

/-- The declarations of a shape that can be written. -/
def groupOf (t : Table) (s : Shape) : List Declaration :=
  match declarations t s with
  | .ok group => group
  | .error _ => []

/-- The source unit with the declarations of each shape. -/
def Source.whole (t : Table) (config : Config) : Source where
  license := config.license
  version := config.version
  functions := [encodeLength, decodeLength]
  library := config.moduleName
  groups := t.shapes.map (groupOf t)

theorem declarations_whole (t : Table) (config : Config) :
    (Source.whole t config).declarations = t.shapes.flatMap (groupOf t) := by
  rw [List.flatMap_def]
  rfl

section Tables

variable {r : Registry} {t : Table}

/-- Each child of a registered shape has its place. -/
theorem exists_place_child (h : r.lower.result = .ok t) {s : Shape} (hs : s ∈ t.shapes) :
    ∀ child ∈ s.children, ∃ place, placeOf t child = .ok place := by
  intro child hc
  -- lowering has found no dependency without a shape
  have hkey : child.key ∈ t.keys := (Registry.lowers_of_lower h).grounded.closed (Table.depends_child hs hc)
  obtain ⟨s', hs'⟩ := exists_resolve_of_mem hkey
  exact exists_place hs'

theorem hasFields_of_lower (h : r.lower.result = .ok t) {s : Shape} (hs : s ∈ t.shapes) : s.HasFields := by
  obtain ⟨t', hreg, h⟩ := Reported.bind_result_eq_ok.1 h
  obtain ⟨_, -, h⟩ := Reported.bind_result_eq_ok.1 h
  cases h
  obtain ⟨before, later, hshapes⟩ := List.append_of_mem hs
  exact (Registry.inOrder_of_register hreg before s later hshapes).fields

/-- Each registered shape has its declarations. -/
theorem declared_of_lower (h : r.lower.result = .ok t) {s : Shape} (hs : s ∈ t.shapes) :
    declarations t s = .ok (groupOf t s) ∧ Declares t s (groupOf t s) := by
  obtain ⟨group, hgroup, hdeclares⟩ := exists_declared (t.not_reference s hs) (hasFields_of_lower h hs)
    (Registry.origin_of_lower h hs).paired (exists_place_child h hs)
  rw [groupOf, hgroup]
  exact ⟨rfl, hdeclares⟩

/-- The table of a registry has its source unit. -/
theorem ofTable_eq (h : r.lower.result = .ok t) (config : Config) :
    Source.ofTable t config = .ok (Source.whole t config) := by
  rw [Source.ofTable, mapM_eq_ok fun s hs => (declared_of_lower h hs).1]
  rfl

/-- The table of a registry can be written, whatever the options are. -/
theorem writeTable_eq (h : r.lower.result = .ok t) (config : Config) :
    writeTable t config = .ok (Source.whole t config).text := by
  rw [writeTable, ofTable_eq h]
  rfl

end Tables

/-! ## Failures -/

/-- Lowering fails for a construct, a name that is missed, a cycle or a size that cannot be written. -/
theorem lower_eq_error {r : Registry} {e : Error} (h : r.lower.result = .error e) :
    (∃ u, e = .unsupported u) ∨ (∃ name, e = .unresolved name) ∨ e = .cyclic ∨ e = .beyond .digits ∧ ¬r.Writable := by
  cases hreg : r.register.result with
  | error e' =>
    cases h.symm.trans (Registry.lower_of_register_error hreg)
    exact (Registry.register_eq_error hreg).imp_right fun hlong => Or.inr (Or.inr hlong)
  | ok t =>
    rw [Registry.lower_of_register hreg] at h
    split at h
    · cases h
    · exact Or.inr (Or.inr (Or.inl (Except.error.inj h).symm))
    · rename_i name _
      exact Or.inr (Or.inl ⟨name, (Except.error.inj h).symm⟩)

/-! ## Output -/

section Output

variable {r : Registry}

theorem generate_of_lower {t : Table} (h : r.lower.result = .ok t) (config : Config) :
    (generate config r).result = .ok (Source.whole t config).text := by
  have hwrite : (Reported.ofExcept (writeTable t config)).result = .ok (Source.whole t config).text :=
    writeTable_eq h config
  rw [generate, Reported.bind_result, h, ok_bind, Reported.bind_result, hwrite]
  rfl

theorem generate_of_error {e : Error} (h : r.lower.result = .error e) (config : Config) :
    (generate config r).result = .error e := by
  rw [generate, Reported.bind_result, h]
  rfl

variable (g : Generator) (sink : Sink)

theorem output_of_ok {text : String} (h : (generate g.config r).result = .ok text) :
    (g.output r sink).1 = sink.write text ∧ (g.output r sink).2.result = .ok () := by
  simp only [Generator.output, h, and_self]

theorem output_of_error {e : Error} (h : (generate g.config r).result = .error e) :
    (g.output r sink).1 = sink ∧ (g.output r sink).2.result = .error e := by
  simp only [Generator.output, h, and_self]

end Output

/-- A generator writes the source of a registry as a whole and with one write, or it writes nothing and tells the
reason for which the registry has no table. A table that a registry has can be written whatever the options are, for
each of its shapes has its declarations, and all that a shape is built from has its place. -/
theorem output_all_or_nothing (g : Generator) (r : Registry) (sink : Sink) :
    ((∃ t text, r.lower.result = .ok t ∧ writeTable t g.config = .ok text ∧
        (g.output r sink).1 = sink.write text ∧ (g.output r sink).2.result = .ok ()) ∨
      ∃ e, r.lower.result = .error e ∧ (g.output r sink).1 = sink ∧ (g.output r sink).2.result = .error e ∧
        ((∃ u, e = .unsupported u) ∨ (∃ name, e = .unresolved name) ∨ e = .cyclic ∨
          e = .beyond .digits ∧ ¬r.Writable)) ∧
    ∀ t, r.lower.result = .ok t →
      (∀ config, ∃ text, writeTable t config = .ok text) ∧
      ∀ s ∈ t.shapes, (∃ group, declarations t s = .ok group) ∧
        ∀ child ∈ s.children, ∃ place, placeOf t child = .ok place := by
  constructor
  · cases h : r.lower.result with
    | ok t =>
      have hout := output_of_ok g sink (generate_of_lower h g.config)
      exact Or.inl ⟨t, _, rfl, writeTable_eq h g.config, hout⟩
    | error e =>
      obtain ⟨hsink, hresult⟩ := output_of_error g sink (generate_of_error h g.config)
      exact Or.inr ⟨e, rfl, hsink, hresult, lower_eq_error h⟩
  · intro t ht
    refine ⟨fun config => ⟨_, writeTable_eq ht config⟩, fun s hs => ⟨⟨_, (declared_of_lower ht hs).1⟩, ?_⟩⟩
    exact exists_place_child ht hs

/-- A generator with the options as they are by themselves. -/
def plain : Generator where
  config := { moduleName := "M" }
  valid := rfl

theorem lower_pair : ∃ t, Registry.pair.lower.result = .ok t :=
  ⟨_, rfl⟩

/-- The first registry is written, and the second, which has a construct without a shape, is not. -/
theorem output_pair_hollow :
    (∃ t text, Registry.pair.lower.result = .ok t ∧ writeTable t plain.config = .ok text ∧
      (plain.output Registry.pair {}).1.writes = [text]) ∧
    (plain.output Registry.hollow {}).1.writes = [] := by
  obtain ⟨t, ht⟩ := lower_pair
  obtain ⟨e, he⟩ : ∃ e, Registry.hollow.lower.result = .error e := ⟨_, rfl⟩
  constructor
  · rcases (output_all_or_nothing plain Registry.pair {}).1 with ⟨t', text', ht', htext', hsink, -⟩ | ⟨e', he', -⟩
    · refine ⟨t', text', ht', htext', ?_⟩
      rw [hsink]
      rfl
    · exact nomatch ht.symm.trans he'
  · rcases (output_all_or_nothing plain Registry.hollow {}).1 with ⟨t', -, ht', -⟩ | ⟨-, -, hsink, -⟩
    · exact nomatch he.symm.trans ht'
    · rw [hsink]

/-- The size of an array is written before the array is registered. -/
theorem lower_of_isTooLong {size : Nat} (h : Text.isTooLong size = true) :
    (Registry.single (.array (.primitive (.integer false .w8)) size)).lower.result = .error (.beyond .digits) := by
  have hformat : (Format.array (.primitive (.integer false .w8)) size).plan =
      ⟨[.register (.primitive (.integer false .w8))], .error (.beyond .digits)⟩ := by
    rw [Format.plan, h]
    rfl
  have hplan : (Registry.single (.array (.primitive (.integer false .w8)) size)).plan =
      ⟨[.enter "A", .register (.primitive (.integer false .w8))], .error (.beyond .digits)⟩ := by
    rw [Registry.single, Registry.plan, Container.plan, Container.bodyPlan, structPlan, fieldsPlan, hformat]
    rfl
  refine Registry.lower_of_register_error ?_
  rw [Registry.register, hplan]
  rfl

/-- A registry with a size that cannot be written. -/
def oversized : Registry :=
  Registry.single (.array (.primitive (.integer false .w8)) (10 ^ Text.mostDigits))

/-- For such a size nothing is written, and the reason is none of the other three. -/
theorem output_oversized : (plain.output oversized {}).2.result = .error (.beyond .digits) ∧
    ¬((∃ text, (plain.output oversized {}).1 = Sink.write {} text) ∨
      ∃ e, (plain.output oversized {}).2.result = .error e ∧
        ((∃ u, e = .unsupported u) ∨ (∃ name, e = .unresolved name) ∨ e = .cyclic)) := by
  have hlong : Text.isTooLong ((10 ^ Text.mostDigits : Nat) : Int) = true := decide_eq_true (Int.natAbs_natCast _).ge
  have hlower : oversized.lower.result = .error (.beyond .digits) := lower_of_isTooLong hlong
  obtain ⟨hsink, hresult⟩ := output_of_error plain {} (generate_of_error hlower plain.config)
  refine ⟨hresult, ?_⟩
  rintro (⟨text, htext⟩ | ⟨e, he, hreason⟩)
  · exact nomatch congrArg Sink.writes (hsink.symm.trans htext)
  · cases hresult.symm.trans he
    rcases hreason with ⟨u, hu⟩ | ⟨name, hname⟩ | hcyclic
    · cases hu
    · cases hname
    · cases hcyclic

end SolidityWire.Solidity
