/-
Names that are told from others by an underscore behind them: distinct names stay distinct unless one that gets an
underscore meets another one that has it already.
-/
import Mathlib.Data.List.Nodup

namespace SolidityWire.Text

/-- The renaming puts an underscore behind the names that are taken, and leaves the others as they are. -/
structure Underscores (taken : String → Prop) (rename : String → String) : Prop where
  of_taken : ∀ {name}, taken name → rename name = name ++ "_"
  of_free : ∀ {name}, ¬taken name → rename name = name

theorem append_underscore_ne (name : String) : name ++ "_" ≠ name := by
  intro he
  have hlength := congrArg String.length he
  simp at hlength

namespace Underscores

variable {taken : String → Prop} {rename : String → String}

/-- Two names become one exactly if one of them is taken and the other one, which is not, has an underscore more. -/
theorem eq_iff (h : Underscores taken rename) {name name' : String} (hne : name ≠ name') :
    rename name = rename name' ↔
      (taken name ∧ ¬taken name' ∧ name' = name ++ "_") ∨ (taken name' ∧ ¬taken name ∧ name = name' ++ "_") := by
  by_cases ht : taken name <;> by_cases ht' : taken name'
  · rw [h.of_taken ht, h.of_taken ht', String.append_left_inj]
    simp [ht, ht', hne]
  · rw [h.of_taken ht, h.of_free ht']
    simp [ht, ht', eq_comm]
  · rw [h.of_free ht, h.of_taken ht']
    simp [ht, ht']
  · rw [h.of_free ht, h.of_free ht']
    simp [ht, ht', hne]

/-- Distinct names are renamed to distinct ones unless one that is taken meets the one with an underscore more, which
is not. -/
theorem nodup_map (h : Underscores taken rename) {names : List String} (hnodup : names.Nodup) :
    (names.map rename).Nodup ↔ ∀ name ∈ names, taken name → name ++ "_" ∈ names → taken (name ++ "_") := by
  constructor
  · intro hmap name hname htaken hmem
    by_contra hfree
    have hne := (append_underscore_ne name).symm
    have hsame := (h.eq_iff hne).2 (Or.inl ⟨htaken, hfree, rfl⟩)
    exact hne (List.inj_on_of_nodup_map hmap hname hmem hsame)
  · intro hall
    refine List.Nodup.map_on (fun name hname name' hname' hsame => ?_) hnodup
    by_contra hne
    rcases (h.eq_iff hne).1 hsame with ⟨htaken, hfree, rfl⟩ | ⟨htaken, hfree, rfl⟩
    · exact hfree (hall name hname htaken hname')
    · exact hfree (hall name' hname' htaken hname)

end Underscores

end SolidityWire.Text
