/-
Formulas that are read from their tokens: names, templates and calls, each through all levels of operators,
none of which comes next. Fuel is only counted down, so that it is enough if there is some left.
-/
import SolidityWire.Proofs.Formula.Token

namespace SolidityWire.Formula

open Text (isNameChar)

/-! ## Levels of operators -/

/-- A formula without an operator in front may begin with the tokens. -/
inductive Begins : List Token → Prop
  | word {w : String} {ts : List Token} : keywords.contains w = false → Begins (.word w :: ts)
  | quoted {kind : QuoteKind} {body : List Char} {ts : List Token} : Begins (.quoted kind body :: ts)
  | group {ts : List Token} : Begins (.sign "(" :: ts)

/-- A formula may end in front of the tokens: no operator comes next. -/
inductive Ends : List Token → Prop
  | nil : Ends []
  | close {ts : List Token} : Ends (.sign ")" :: ts)

section Levels

variable {n : Nat} {ts mid rest : List Token} {a f : Formula}

theorem binaryAhead?_of_ends (h : Ends ts) {level : Nat} (hl : level < 6) : binaryAhead? level ts = none := by
  cases h with
  | nil => rfl
  | close =>
    obtain rfl | rfl | rfl | rfl | rfl | rfl :
        level = 0 ∨ level = 1 ∨ level = 2 ∨ level = 3 ∨ level = 4 ∨ level = 5 := by
      omega
    all_goals rfl

theorem readTrailers_of_ends (h : Ends ts) : readTrailers (n + 1) a ts = some (a, ts) := by
  cases h <;> rfl

theorem readFactor_of_atom (hb : Begins ts) (hr : Ends rest) (ha : readAtom n ts = some (a, mid))
    (ht : readTrailers n a mid = some (f, rest)) : readFactor (n + 1) ts = some (f, rest) := by
  have hu : unaryAhead? ts = none := by cases hb <;> rfl
  rw [readFactor, hu]
  simp only [ha, ht, Option.bind_eq_bind, Option.bind_some]
  cases hr <;> rfl

theorem readBinary_of_factor (hr : Ends rest) (h : readFactor n ts = some (f, rest)) :
    readBinary (n + 7) 0 ts = some (f, rest) := by
  simp [readBinary, readBinaryRest, h, binaryAhead?_of_ends hr, binaryLevels]

theorem readNegation_of_factor (hb : Begins ts) (hr : Ends rest) (h : readFactor n ts = some (f, rest)) :
    readNegation (n + 8) ts = some (f, rest) := by
  have hc : compareAhead? rest = none := by cases hr <;> rfl
  rw [readNegation]
  · rw [readBinary_of_factor hr h]
    simp [readComparisons, hc]
  · rintro ts' rfl
    cases hb with
    | word h => simp [keywords] at h

/-- A formula of an atom and what comes behind it, under all operators. -/
theorem readFormula_of_atom (hb : Begins ts) (hr : Ends rest) (ha : readAtom n ts = some (a, mid))
    (ht : readTrailers n a mid = some (f, rest)) : readFormula (n + 12) ts = some (f, rest) := by
  have he : readEither (n + 11) ts = some (f, rest) := by
    rw [readEither, readBoth, readNegation_of_factor hb hr (readFactor_of_atom hb hr ha ht)]
    cases hr <;> rfl
  rw [readFormula, he]
  · cases hr <;> rfl
  · rintro ts' rfl
    cases hb with
    | word h => simp [keywords] at h

theorem readStarred_of_formula (hb : Begins ts) (hn : ∀ w ts', ts ≠ .word w :: .sign ":=" :: ts')
    (h : readFormula n ts = some (f, rest)) : readStarred (n + 2) ts = some (f, rest) := by
  rw [readStarred, readNamed, h]
  · exact hn
  · intro ts' he
    cases hb <;> simp at he

end Levels

/-! ## Names -/

theorem readAtom_word {n : Nat} {s : String} {ts : List Token} (h : keywords.contains s = false) :
    readAtom (n + 1) (.word s :: ts) = some (.name s, ts) := by
  have ne : ∀ k ∈ keywords, s ≠ k := fun k hk he => by
    rw [he, List.contains_iff_mem.2 hk] at h; cases h
  rw [readAtom, if_neg (by rw [h]; exact Bool.false_ne_true)]
  · exact ne _ (by decide)
  · exact ne _ (by decide)
  · exact ne _ (by decide)

section Word

variable {n : Nat} {s : String} {c : Char} {cs : List Char}

/-- A word that is no keyword, in brackets, is a name. -/
theorem readWritten_word (h : ∀ d ∈ c :: cs, isNameChar d = true) (hd : c.isDigit = false)
    (ht : wordToken? (c :: cs) = some (.word s)) (hs : keywords.contains s = false) :
    readWritten (n + 40) ('(' :: (c :: cs ++ [')'])) = some (.name s, []) := by
  have hname : readFormula (n + 21) [.word s, .sign ")"] = some (.name s, [.sign ")"]) :=
    readFormula_of_atom (.word hs) .close (readAtom_word hs) (readTrailers_of_ends .close)
  have hgroup : readAtom (n + 25) [.sign "(", .word s, .sign ")"] = some (.name s, []) := by
    rw [readAtom, readGroup, readStarred_of_formula (.word hs) (by simp) hname]
    · rfl
    · simp
  rw [readWritten, tokens_word h hd ht]
  refine readStarred_of_formula .group (by simp) ?_
  exact readFormula_of_atom (n := n + 25) .group .nil hgroup (readTrailers_of_ends .nil)

theorem readFill_word {isRaw isTop : Bool} {rest : List Char} (h : ∀ d ∈ c :: cs, isNameChar d = true)
    (hd : c.isDigit = false) (ht : wordToken? (c :: cs) = some (.word s)) (hs : keywords.contains s = false) :
    readFill (n + 41) isRaw isTop (c :: cs ++ '\x7d' :: rest) = some ([.fill (.name s) none []], rest) := by
  have hfill := @fillAhead?_of_word rest _ [] h
  have hgap : ((c :: cs).all fun c => isGap c ∨ c = '\n') = false := by
    have ne : ∀ d, isNameChar d = false → c ≠ d := fun d => ne_of_isNameChar (h c List.mem_cons_self)
    simp [isGap, ne ' ' rfl, ne '\t' rfl, ne '\x0c' rfl, ne '\n' rfl]
  have hw := readWritten_word (n := n) h hd ht hs
  rw [readFill, hfill]
  simp only [List.reverse_nil, List.nil_append, Option.bind_eq_bind, Option.bind_some, hgap]
  simp only [List.cons_append] at hw ⊢
  rw [hw]
  rfl

end Word

/-! ## Templates and calls -/

section Template

variable {n : Nat} {isRaw : Bool}

theorem readPieces_of_written {cs : List Char} (h : ∀ c ∈ cs, IsWritten c) (hn : cs ≠ []) :
    readPieces (n + 1) isRaw true cs = some ([.text (String.ofList cs)], []) := by
  have hchunk : chunkAhead isRaw true [] (cs ++ []) = (cs, []) := chunkAhead_of_written .nil h
  rw [List.append_nil] at hchunk
  rw [readPieces, hchunk]
  simp [bodyText?_of_written h, hn]

/-- A template with one name to fill in, between texts. -/
theorem readPieces_fill {front back : List Char} {s : String} {c : Char} {cs : List Char}
    (hf : ∀ c ∈ front, IsWritten c) (hfn : front ≠ []) (hb : ∀ c ∈ back, IsWritten c) (hbn : back ≠ [])
    (h : ∀ d ∈ c :: cs, isNameChar d = true) (hd : c.isDigit = false) (ht : wordToken? (c :: cs) = some (.word s))
    (hs : keywords.contains s = false) :
    readPieces (n + 42) isRaw true (front ++ '\x7b' :: (c :: cs ++ '\x7d' :: back)) =
      some ([.text (String.ofList front), .fill (.name s) none [], .text (String.ofList back)], []) := by
  have hend : EndsText ('\x7b' :: (c :: cs ++ '\x7d' :: back)) := .fill (ne_of_isNameChar (h c List.mem_cons_self) rfl)
  have hchunk : chunkAhead isRaw true [] (front ++ '\x7b' :: (c :: cs ++ '\x7d' :: back)) =
      (front, '\x7b' :: (c :: cs ++ '\x7d' :: back)) := chunkAhead_of_written hend hf
  rw [readPieces, hchunk]
  simp only [bodyText?_of_written hf, readFill_word h hd ht hs]
  simp [readPieces_of_written hb hbn, hfn]

theorem readFormula_template {body : List Char} {pieces : List Piece} {ts : List Token} (hr : Ends ts)
    (hp : readPieces (n + 1) false true body = some (pieces, [])) :
    readFormula (n + 15) (.quoted { isTemplate := true } body :: ts) = some (.template pieces, ts) := by
  have hend : readQuoted (n + 1) ts = some ([], ts) := by cases hr <;> rfl
  have ha : readAtom (n + 3) (.quoted { isTemplate := true } body :: ts) = some (.template pieces, ts) := by
    rw [readAtom, readQuoted]
    simp [hp, hend, ofQuoted?]
  exact readFormula_of_atom .quoted hr ha (readTrailers_of_ends hr)

/-- The call of a name with a quoted text. -/
theorem readFormula_call {s : String} {f : Formula} {kind : QuoteKind} {body : List Char}
    (hs : keywords.contains s = false) (hf : readFormula n [.quoted kind body, .sign ")"] = some (f, [.sign ")"])) :
    readFormula (n + 16) [.word s, .sign "(", .quoted kind body, .sign ")"] =
      some (.call (.name s) [(.plain, f)], []) := by
  have ha : readArguments (n + 3) [.quoted kind body, .sign ")"] = some ([(.plain, f)], []) := by
    rw [readArguments, readArgument, readNamed, hf] <;> simp
  have ht : readTrailers (n + 4) (.name s) [.sign "(", .quoted kind body, .sign ")"] =
      some (.call (.name s) [(.plain, f)], []) := by
    rw [readTrailers, ha]
    rfl
  exact readFormula_of_atom (.word hs) .nil (readAtom_word hs) ht

end Template

/-! ## What cannot be read -/

section Unread

variable {ts : List Token}

/-- No formula without an operator in front begins with the tokens, however much fuel there is. -/
def Unread (ts : List Token) : Prop :=
  ∀ n, readFactor n ts = none

theorem Unread.readBinary (h : Unread ts) : ∀ n level, readBinary n level ts = none
  | 0, _ => rfl
  | n + 1, level => by
    rw [Formula.readBinary, h n, Unread.readBinary h n]
    split <;> rfl

theorem Unread.readEither (h : Unread ts) (hnot : ∀ ts', ts ≠ .word "not" :: ts') (n : Nat) :
    readEither n ts = none := by
  have hnegation : ∀ n, readNegation n ts = none := fun n => by
    cases n with
    | zero => rfl
    | succ n =>
      rw [readNegation, h.readBinary]
      · rfl
      · exact hnot
  have hboth : ∀ n, readBoth n ts = none := fun n => by
    cases n with
    | zero => rfl
    | succ n =>
      rw [readBoth, hnegation]
      rfl
  cases n with
  | zero => rfl
  | succ n =>
    rw [Formula.readEither, hboth]
    rfl

theorem Unread.readFormula (h : Unread ts) (hnot : ∀ ts', ts ≠ .word "not" :: ts')
    (hlambda : ∀ ts', ts ≠ .word "lambda" :: ts') (n : Nat) : readFormula n ts = none := by
  cases n with
  | zero => rfl
  | succ n =>
    rw [Formula.readFormula, h.readEither hnot]
    · rfl
    · exact hlambda

end Unread

end SolidityWire.Formula
