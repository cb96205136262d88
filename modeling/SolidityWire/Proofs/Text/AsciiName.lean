/-
Names of ASCII letters, digits and underscores: what is put together from such names is such a name.
-/
import SolidityWire.Text.AsciiName

namespace SolidityWire.Text

/-- The string is made of ASCII letters, digits and underscores. -/
def IsName (s : String) : Prop :=
  ∀ c ∈ s.toList, isNameChar c = true

theorem IsName.asciiName_eq {s : String} (h : IsName s) : asciiName s = s :=
  asciiName_eq_self h

theorem IsName.append {s t : String} (hs : IsName s) (ht : IsName t) : IsName (s ++ t) := by
  unfold IsName
  rw [String.toList_append, List.forall_mem_append]
  exact ⟨hs, ht⟩

theorem IsName.intercalate {sep : String} (hsep : IsName sep) : ∀ {names : List String}, (∀ s ∈ names, IsName s) →
    IsName (sep.intercalate names)
  | [], _ => fun c hc => by simp at hc
  | [s], h => by rw [String.intercalate_singleton]; exact h s List.mem_cons_self
  | s :: t :: rest, h => by
    rw [String.intercalate_cons_cons]
    exact ((h s List.mem_cons_self).append hsep).append
      (IsName.intercalate hsep fun u hu => h u (List.mem_cons_of_mem _ hu))

theorem isName_toString (n : Nat) : IsName (toString n) := by
  intro c hc
  have hd : c.isDigit = true := Nat.isDigit_of_mem_toDigits (b := 10) (by decide) (by decide) (by simpa using hc)
  simp [isNameChar, Char.isAlphanum, hd]

end SolidityWire.Text
