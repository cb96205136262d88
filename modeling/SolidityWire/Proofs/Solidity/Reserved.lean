/-
Reserved words: plain ones, and kinds of types with a number behind them. None has an underscore, and none begins like
the name of a part.
-/
import SolidityWire.Proofs.Text.AsciiName
import SolidityWire.Solidity.Reserved

namespace SolidityWire.Solidity

/-- A sized word is a number behind the name of a kind of types. -/
theorem exists_of_mem_sizedWords {word : String} (h : word ∈ sizedWords) :
    ∃ kind ∈ ["int", "uint", "bytes"], ∃ n : Nat, word = kind ++ toString n := by
  obtain ⟨n, -, hword⟩ := List.mem_flatMap.1 h
  simp only [List.mem_cons, List.not_mem_nil, or_false] at hword
  rcases hword with rfl | rfl | rfl
  · exact ⟨"int", by decide, _, rfl⟩
  · exact ⟨"uint", by decide, _, rfl⟩
  · exact ⟨"bytes", by decide, _, rfl⟩

theorem mem_of_isReserved {name : String} (h : isReserved name = true) :
    name ∈ plainWords ∨ ∃ kind ∈ ["int", "uint", "bytes"], ∃ n : Nat, name = kind ++ toString n :=
  (List.mem_append.1 (List.contains_iff_mem.1 h)).imp_right exists_of_mem_sizedWords

/-- What the letters of plain words are not. -/
theorem plainWords_letters : ∀ word ∈ plainWords, '_' ∉ word.toList ∧ ¬"entry".toList <+: word.toList := by
  decide

/-- No reserved word has an underscore. -/
theorem isReserved_of_underscore {name : String} (h : '_' ∈ name.toList) : isReserved name = false := by
  have hkinds : ∀ kind ∈ ["int", "uint", "bytes"], '_' ∉ kind.toList := by decide
  refine Bool.eq_false_iff.2 fun hreserved => ?_
  rcases mem_of_isReserved hreserved with hname | ⟨kind, hkind, n, rfl⟩
  · exact (plainWords_letters name hname).1 h
  · rw [String.toList_append] at h
    rcases List.mem_append.1 h with h | h
    · exact hkinds kind hkind h
    · simp at h

/-- No reserved word begins like the name of a part. -/
theorem isReserved_entry (n : Nat) : isReserved ("entry" ++ toString n) = false := by
  have hkinds : ∀ kind ∈ ["int", "uint", "bytes"], ∃ c cs, kind.toList = c :: cs ∧ c ≠ 'e' := by
    simp
  refine Bool.eq_false_iff.2 fun hreserved => ?_
  rcases mem_of_isReserved hreserved with hname | ⟨kind, hkind, m, he⟩
  · refine (plainWords_letters _ hname).2 ?_
    rw [String.toList_append]
    exact List.prefix_append _ _
  · obtain ⟨c, cs, hletters, hc⟩ := hkinds kind hkind
    have hhead := congrArg (fun s => s.toList.head?) he
    simp only [String.toList_append, hletters, List.cons_append, List.head?_cons] at hhead
    exact hc (Option.some.inj hhead).symm

end SolidityWire.Solidity
