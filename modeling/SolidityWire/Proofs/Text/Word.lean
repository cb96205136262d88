/-
Words: names that begin with a letter. A word is an identifier in its compatible form.
-/
import SolidityWire.Proofs.Text.AsciiName
import SolidityWire.Text.Compatible
import SolidityWire.Text.Identifier

namespace SolidityWire.Text

/-- The string begins with an ASCII letter, and ASCII letters, digits and underscores follow. -/
structure IsWord (s : String) : Prop where
  isName : IsName s
  head : s.toList.head?.any Char.isAlpha = true

instance (s : String) : Decidable (IsWord s) :=
  decidable_of_iff (s.toList.all isNameChar = true ∧ s.toList.head?.any Char.isAlpha = true)
    ⟨fun ⟨hname, hhead⟩ => ⟨List.all_eq_true.1 hname, hhead⟩, fun h => ⟨List.all_eq_true.2 h.isName, h.head⟩⟩

/-! ## Characters -/

theorem toNat_lt_of_isNameChar {c : Char} (h : isNameChar c = true) : c.toNat < 128 := by
  have hparts : ((c.isUpper || c.isLower) || c.isDigit || c == '_') = true := h
  rw [Bool.or_eq_true, Bool.or_eq_true, Bool.or_eq_true, beq_iff_eq] at hparts
  rcases hparts with ((hupper | hlower) | hdigit) | rfl
  · have hle : c.val ≤ 'Z'.val := (of_decide_eq_true hupper).2
    exact Nat.lt_of_le_of_lt hle (by decide)
  · have hle : c.val ≤ 'z'.val := of_decide_eq_true (Bool.and_eq_true_iff.1 hlower).2
    exact Nat.lt_of_le_of_lt hle (by decide)
  · have hle : c.val ≤ '9'.val := of_decide_eq_true (Bool.and_eq_true_iff.1 hdigit).2
    exact Nat.lt_of_le_of_lt hle (by decide)
  · decide

theorem isIdentifier_of_ascii : ∀ n < 128,
    (isNameChar (Char.ofNat n) = true → isIdentifierPart (Char.ofNat n) = true) ∧
      ((Char.ofNat n).isAlpha = true → isIdentifierStart (Char.ofNat n) = true) := by
  decide +kernel

theorem isIdentifierPart_of_isNameChar {c : Char} (h : isNameChar c = true) : isIdentifierPart c = true := by
  have hc := (isIdentifier_of_ascii c.toNat (toNat_lt_of_isNameChar h)).1
  rw [Char.ofNat_toNat] at hc
  exact hc h

theorem isIdentifierStart_of_isAlpha {c : Char} (h : c.isAlpha = true) : isIdentifierStart c = true := by
  have hname : isNameChar c = true := by simp [isNameChar, Char.isAlphanum, h]
  have hc := (isIdentifier_of_ascii c.toNat (toNat_lt_of_isNameChar hname)).2
  rw [Char.ofNat_toNat] at hc
  exact hc h

/-! ## Names and words -/

theorem IsName.compatible_eq {s : String} (h : IsName s) : compatible s = s := by
  unfold compatible
  rw [if_pos]
  exact List.all_eq_true.2 fun c hc => decide_eq_true (toNat_lt_of_isNameChar (h c hc))

namespace IsWord

variable {s : String}

theorem exists_cons (h : IsWord s) : ∃ c cs, s.toList = c :: cs ∧ c.isAlpha = true := by
  have hhead := h.head
  cases hs : s.toList with
  | nil => rw [hs] at hhead; cases hhead
  | cons c cs =>
    rw [hs] at hhead
    exact ⟨c, cs, rfl, hhead⟩

theorem append (h : IsWord s) {t : String} (ht : IsName t) : IsWord (s ++ t) where
  isName := h.isName.append ht
  head := by
    obtain ⟨c, cs, hs, hc⟩ := h.exists_cons
    rw [String.toList_append, hs]
    exact hc

theorem isIdentifier (h : IsWord s) : isIdentifier s = true := by
  obtain ⟨c, cs, hs, hc⟩ := h.exists_cons
  have hrest : ∀ d ∈ cs, isIdentifierPart d = true := fun d hd =>
    isIdentifierPart_of_isNameChar (h.isName d (hs ▸ List.mem_cons_of_mem c hd))
  unfold Text.isIdentifier
  rw [hs]
  exact Bool.and_eq_true_iff.2 ⟨isIdentifierStart_of_isAlpha hc, List.all_eq_true.2 hrest⟩

theorem head?_ne (h : IsWord s) : s.toList.head? ≠ some '_' := by
  obtain ⟨c, cs, hs, hc⟩ := h.exists_cons
  rw [hs]
  rintro ⟨rfl⟩
  revert hc
  decide

end IsWord

end SolidityWire.Text
