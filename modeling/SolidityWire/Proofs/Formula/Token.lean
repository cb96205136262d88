/-
Tokens and pieces of plain text. A character that is no quote, no backslash and no line end stands for itself
between quotes; one that is no brace and no backslash does so in a template, and a word of name characters
goes on as far as it is written.
-/
import SolidityWire.Formula.OfTokens
import SolidityWire.Proofs.Text.AsciiName

namespace SolidityWire.Formula

open Text (isNameChar)

/-! ## Characters -/

/-- The character stands for itself between quotes, wherever lines end. -/
def IsPlain (c : Char) : Prop :=
  c ≠ '\\' ∧ c ≠ '"' ∧ c ≠ '\n' ∧ c ≠ '\r'

instance (c : Char) : Decidable (IsPlain c) := inferInstanceAs (Decidable (_ ∧ _))

/-- The character neither begins an escape nor anything that is filled in. -/
def IsWritten (c : Char) : Prop :=
  c ≠ '\\' ∧ c ≠ '\x7b' ∧ c ≠ '\x7d'

instance (c : Char) : Decidable (IsWritten c) := inferInstanceAs (Decidable (_ ∧ _))

/-- The characters of a word that is given can be checked. -/
theorem forall_mem_of_all {p : Char → Prop} [DecidablePred p] {cs : List Char}
    (h : (cs.all fun c => decide (p c)) = true) : ∀ c ∈ cs, p c :=
  fun c hc => of_decide_eq_true (List.all_eq_true.1 h c hc)

theorem ne_of_isNameChar {c d : Char} (hc : isNameChar c = true) (hd : isNameChar d = false) : c ≠ d :=
  fun h => by rw [h, hd] at hc; cases hc

theorem isPlain_of_isNameChar {c : Char} (h : isNameChar c = true) : IsPlain c :=
  ⟨ne_of_isNameChar h rfl, ne_of_isNameChar h rfl, ne_of_isNameChar h rfl, ne_of_isNameChar h rfl⟩

theorem isWritten_of_isNameChar {c : Char} (h : isNameChar c = true) : IsWritten c :=
  ⟨ne_of_isNameChar h rfl, ne_of_isNameChar h rfl, ne_of_isNameChar h rfl⟩

theorem isWordPart_of_isNameChar {c : Char} (h : isNameChar c = true) : isWordPart c = true := by
  unfold isNameChar at h
  unfold isWordPart
  rw [h, Bool.true_or]

theorem plainLines_of_plain :
    ∀ {cs : List Char}, (∀ c ∈ cs, IsPlain c) → ∀ rest, plainLines (cs ++ rest) = cs ++ plainLines rest
  | [], _, _ => rfl
  | c :: cs, h, rest => by
    have hc : c ≠ '\r' := (h c List.mem_cons_self).2.2.2
    rw [List.cons_append, plainLines, plainLines_of_plain (fun d hd => h d (List.mem_cons_of_mem _ hd)) rest]
    · rfl
    · rintro _ rfl; exact absurd rfl hc
    · exact hc

theorem bodyAhead?_of_plain {rest : List Char} : ∀ {cs done : List Char}, (∀ c ∈ cs, IsPlain c) →
    bodyAhead? '"' false done (cs ++ '"' :: rest) = some (done.reverse ++ cs, rest)
  | [], done, _ => by
    rw [List.nil_append, List.append_nil, bodyAhead?.eq_def]
    rfl
  | c :: cs, done, h => by
    obtain ⟨hb, hq, hn, -⟩ := h c List.mem_cons_self
    have ih := @bodyAhead?_of_plain rest cs (c :: done) fun d hd => h d (List.mem_cons_of_mem _ hd)
    rw [List.reverse_cons, List.append_assoc] at ih
    rw [List.cons_append, bodyAhead?.eq_def]
    split
    · contradiction
    · rename_i heq; exact absurd (List.cons.inj heq).1 hb
    · rename_i heq
      obtain ⟨rfl, rfl⟩ := List.cons.inj heq
      rw [if_neg hq, if_neg fun hc => hn hc.1, ih]
      rfl

theorem tokensFrom_of_word {opened : List String} {fuel : Nat} {c : Char} {cs rest : List Char} {t : Token}
    (hc : isNameChar c = true) (hd : c.isDigit = false) (h : wordAhead? (c :: cs) = some (t, rest)) :
    tokensFrom opened (fuel + 1) (c :: cs) = t :: tokensFrom opened fuel rest := by
  have ne : ∀ d, isNameChar d = false → c ≠ d := fun d => ne_of_isNameChar hc
  have hgap : isGap c = false := by simp [isGap, ne ' ' rfl, ne '\t' rfl, ne '\x0c' rfl]
  rw [tokensFrom.eq_def]
  simp [hgap, isWordPart_of_isNameChar hc, hd, h, ne '#' rfl, ne '\n' rfl, ne '\\' rfl, ne '\'' rfl, ne '"' rfl,
    ne '.' rfl]

theorem tokensFrom_open {opened : List String} {fuel : Nat} {cs : List Char} (h : opened.length < mostBrackets) :
    tokensFrom opened (fuel + 1) ('(' :: cs) = .sign "(" :: tokensFrom (")" :: opened) fuel cs := by
  have hs : signAhead? ('(' :: cs) = some ("(", cs) := rfl
  rw [tokensFrom.eq_def]
  simp [isGap, isWordPart, hs, bracketsAfter?, h]

theorem tokensFrom_close {opened : List String} {fuel : Nat} {cs : List Char} :
    tokensFrom (")" :: opened) (fuel + 1) (')' :: cs) = .sign ")" :: tokensFrom opened fuel cs := by
  have hs : signAhead? (')' :: cs) = some (")", cs) := rfl
  rw [tokensFrom.eq_def]
  simp [isGap, isWordPart, hs, bracketsAfter?]

/-- A template of plain characters, in brackets, is one token. -/
theorem tokens_template {body : List Char} (hl : 1 < body.length) (h : ∀ c ∈ body, IsPlain c) :
    tokens ('(' :: 'f' :: '"' :: (body ++ ['"', ')'])) =
      [.sign "(", .quoted { isTemplate := true } body, .sign ")"] := by
  have hq : quotedAhead? { isTemplate := true } '"' (body ++ ['"', ')']) =
      some (.quoted { isTemplate := true } body, [')']) := by
    have hb := @bodyAhead?_of_plain [')'] _ [] h
    obtain ⟨c, d, cs, rfl⟩ : ∃ c d cs, body = c :: d :: cs := by
      match body, hl with
      | c :: d :: cs, _ => exact ⟨c, d, cs, rfl⟩
    have hc := (h c List.mem_cons_self).2.1
    unfold quotedAhead?
    simp only [List.cons_append, hc, false_and, if_false] at hb ⊢
    rw [hb]
    rfl
  have hw : wordAhead? ('f' :: '"' :: (body ++ ['"', ')'])) = some (.quoted { isTemplate := true } body, [')']) := by
    rw [← hq]
    rfl
  rw [tokens, List.length_cons, List.length_cons, tokensFrom_open (by decide), tokensFrom_of_word rfl rfl hw]
  simp only [List.length_cons, List.length_append]
  rw [tokensFrom_close]
  rfl

/-- A word of name characters, in brackets, is one token. -/
theorem tokens_word {c : Char} {cs : List Char} {t : Token} (h : ∀ d ∈ c :: cs, isNameChar d = true)
    (hd : c.isDigit = false) (ht : wordToken? (c :: cs) = some t) :
    tokens ('(' :: (c :: cs ++ [')'])) = [.sign "(", t, .sign ")"] := by
  have hw : wordAhead? (c :: (cs ++ [')'])) = some (t, [')']) := by
    have htake : (c :: cs ++ [')']).takeWhile isWordPart = c :: cs := by
      rw [List.takeWhile_append_of_pos fun d hd => isWordPart_of_isNameChar (h d hd),
        List.takeWhile_cons_of_neg (by decide), List.append_nil]
    have hdrop : (c :: cs ++ [')']).drop (c :: cs).length = [')'] := List.drop_left
    rw [← List.cons_append]
    simp only [wordAhead?, htake, hdrop, ht, Option.map_some]
    rfl
  rw [tokens, List.length_cons, tokensFrom_open (by decide), List.cons_append, List.length_cons, List.length_append,
    tokensFrom_of_word (h c List.mem_cons_self) hd hw]
  simp only [List.length_singleton]
  rw [tokensFrom_close]
  rfl

/-! ## Parts of templates -/

theorem unescape?_of_written {isBytes : Bool} : ∀ {cs : List Char} {fuel : Nat}, (∀ c ∈ cs, IsWritten c) →
    cs.length < fuel → unescape? isBytes fuel cs = some cs
  | [], fuel + 1, _, _ => rfl
  | c :: cs, fuel + 1, h, hf => by
    rw [unescape?, unescape?_of_written (fun d hd => h d (List.mem_cons_of_mem _ hd)) (Nat.lt_of_succ_lt_succ hf)]
    · rfl
    · exact (h c List.mem_cons_self).1

theorem bodyText?_of_written {isBytes isRaw : Bool} {cs : List Char} (h : ∀ c ∈ cs, IsWritten c) :
    bodyText? isBytes isRaw cs = some cs := by
  unfold bodyText?
  split
  · rfl
  · exact unescape?_of_written h (Nat.lt_succ_self _)

/-- A text in a template ends in front of the characters: nothing is left, or a single brace opens. -/
inductive EndsText : List Char → Prop
  | nil : EndsText []
  | fill {d : Char} {cs : List Char} : d ≠ '\x7b' → EndsText ('\x7b' :: d :: cs)

theorem chunkAhead_of_written {isRaw : Bool} {rest : List Char} (hr : EndsText rest) : ∀ {cs done : List Char},
    (∀ c ∈ cs, IsWritten c) → chunkAhead isRaw true done (cs ++ rest) = (done.reverse ++ cs, rest)
  | [], done, _ => by
    cases hr with
    | nil => simp [chunkAhead]
    | fill h => simp [chunkAhead, h]
  | c :: cs, done, h => by
    obtain ⟨hb, ho, hc⟩ := h c List.mem_cons_self
    have ih := @chunkAhead_of_written isRaw rest hr cs (c :: done) fun d hd =>
      h d (List.mem_cons_of_mem _ hd)
    rw [List.reverse_cons, List.append_assoc] at ih
    rw [List.cons_append]
    cases hcs : cs ++ rest with
    | nil =>
      obtain ⟨rfl, rfl⟩ := List.append_eq_nil_iff.1 hcs
      simp [chunkAhead, ho, hc]
    | cons d ds =>
      rw [hcs] at ih
      rw [chunkAhead, if_neg (by simp [ho, hc]), if_neg (by simp [hb]), ih]
      · rfl
      · rintro _ rfl; exact absurd rfl hb

theorem fillAhead?_of_word {rest : List Char} : ∀ {w done : List Char}, (∀ c ∈ w, isNameChar c = true) →
    fillAhead? {} done (w ++ '\x7d' :: rest) = some (done.reverse ++ w, '\x7d' :: rest)
  | [], done, _ => by
    rw [List.nil_append, List.append_nil, fillAhead?.eq_def]
    simp
    split <;> rfl
  | c :: cs, done, h => by
    have ne : ∀ d, isNameChar d = false → c ≠ d := fun d => ne_of_isNameChar (h c List.mem_cons_self)
    have ih := @fillAhead?_of_word rest cs (c :: done) fun d hd => h d (List.mem_cons_of_mem _ hd)
    rw [List.reverse_cons, List.append_assoc] at ih
    rw [List.cons_append, fillAhead?.eq_def]
    simp [ne '\\' rfl, ne '\'' rfl, ne '"' rfl, ne '(' rfl, ne '[' rfl, ne '\x7b' rfl, ne '#' rfl, ne '!' rfl,
      ne ':' rfl, ne '\x7d' rfl, ne '=' rfl, ne '<' rfl, ne '>' rfl, ne ')' rfl, ne ']' rfl, ih]

end SolidityWire.Formula
