/-
Refusals under literal keys. A key without quotes, backslashes, braces and line ends, such as one of name characters,
changes nothing in the statement that it takes part in, so the refusal is read as it is meant, and what it raises is
the error of encoding or of decoding.
-/
import SolidityWire.Codec.Choice
import SolidityWire.Proofs.Except
import SolidityWire.Proofs.Formula.Read

namespace SolidityWire.Codec

open Formula Text

namespace Refusal

/-! ## Reading -/

/-- The key stands for itself in the statement: it ends neither the text nor its line, and nothing in it is escaped
or filled in. -/
def IsLiteral (key : String) : Prop :=
  ∀ c ∈ key.toList, IsPlain c ∧ IsWritten c

theorem isLiteral_of_isName {key : String} (h : IsName key) : IsLiteral key :=
  fun c hc => ⟨isPlain_of_isNameChar (h c hc), isWritten_of_isNameChar (h c hc)⟩

/-- The refusal that is meant for a key: an error with the choice and the key in its words. -/
def ofName (key : String) : Refusal where
  raised := .call (.name errorName) [(.plain, .template
    [.text "Invalid variant index ", .fill (.name "choice") none [], .text (" for " ++ key)])]

theorem wordToken?_choice : wordToken? ['c', 'h', 'o', 'i', 'c', 'e'] = some (.word "choice") := by
  have hk : keywords.contains "choice" = false := rfl
  have hi : isIdentifier "choice" = true := by decide +kernel
  have hc : compatible "choice" = "choice" := rfl
  have hs : String.ofList ['c', 'h', 'o', 'i', 'c', 'e'] = "choice" := rfl
  simp only [wordToken?, hs, hk, hi, hc]
  rfl

/-- What stands between the quotes. -/
def body (key : String) : List Char :=
  "Invalid variant index \x7bchoice\x7d for ".toList ++ key.toList

theorem isPlain_body {key : String} (h : IsLiteral key) : ∀ c ∈ body key, IsPlain c :=
  List.forall_mem_append.2 ⟨forall_mem_of_all (by decide), fun c hc => (h c hc).1⟩

theorem one_lt_length_body (key : String) : 1 < (body key).length := by
  obtain ⟨cs, h⟩ : ∃ cs, body key = 'I' :: 'n' :: cs := ⟨_, rfl⟩
  rw [h, List.length_cons, List.length_cons]
  exact Nat.succ_lt_succ (Nat.succ_pos _)

/-- The statement before its lines are told apart. -/
theorem toList_statement (key : String) :
    ("(f\"Invalid variant index \x7bchoice\x7d for " ++ key ++ "\")").toList =
      '(' :: 'f' :: '"' :: (body key ++ ['"', ')']) := by
  rw [String.toList_append, String.toList_append]
  rfl

theorem textOf_eq {key : String} (h : IsLiteral key) : textOf key = '(' :: 'f' :: '"' :: (body key ++ ['"', ')']) := by
  have hplain := plainLines_of_plain (isPlain_body h) ['"', ')']
  rw [textOf, toList_statement, plainLines, plainLines, plainLines, hplain]
  · rfl
  all_goals simp

theorem readPieces_body {n : Nat} {key : String} (h : IsLiteral key) : readPieces (n + 42) false true (body key) =
    some ([.text "Invalid variant index ", .fill (.name "choice") none [], .text (" for " ++ key)], []) := by
  have hletters : "Invalid variant index \x7bchoice\x7d for ".toList = "Invalid variant index ".toList ++
      '\x7b' :: (['c', 'h', 'o', 'i', 'c', 'e'] ++ '\x7d' :: " for ".toList) := by
    simp
  have hbody : body key = "Invalid variant index ".toList ++
      '\x7b' :: (['c', 'h', 'o', 'i', 'c', 'e'] ++ '\x7d' :: (" for " ++ key).toList) := by
    unfold body
    rw [hletters, String.toList_append]
    simp only [List.append_assoc, List.cons_append]
  have hfront : ∀ c ∈ "Invalid variant index ".toList, IsWritten c := forall_mem_of_all (by decide)
  have hback : ∀ c ∈ (" for " ++ key).toList, IsWritten c := by
    rw [String.toList_append]
    exact List.forall_mem_append.2 ⟨forall_mem_of_all (by decide), fun c hc => (h c hc).2⟩
  have hchoice : ∀ c ∈ ['c', 'h', 'o', 'i', 'c', 'e'], isNameChar c = true :=
    List.all_eq_true.1 (by decide)
  rw [hbody, readPieces_fill hfront (by simp) hback (by simp) hchoice rfl wordToken?_choice (by decide),
    String.ofList_toList, String.ofList_toList]

theorem tokens_textOf {key : String} (h : IsLiteral key) :
    tokens (textOf key) = [.sign "(", .quoted { isTemplate := true } (body key), .sign ")"] := by
  rw [textOf_eq h]
  exact tokens_template (one_lt_length_body key) (isPlain_body h)

theorem read?_body {n : Nat} {key : String} (h : IsLiteral key) :
    read? (n + 72) [.word errorName, .sign "(", .quoted { isTemplate := true } (body key), .sign ")"] =
      some (ofName key, []) := by
  have hread := readFormula_call (n := n + 56) (s := errorName) (by decide)
    (readFormula_template .close (readPieces_body h))
  rw [read?, hread]
  rfl

theorem ofKey_of_isLiteral {key : String} (h : IsLiteral key) : ofKey key = .ok (ofName key) := by
  have htokens := tokens_textOf h
  unfold ofKey
  generalize textOf key = text at htokens
  obtain ⟨n, hn⟩ : ∃ n, 30 * (text.length + 4) = n + 72 := ⟨30 * text.length + 48, by omega⟩
  simp only [htokens, hn, read?_body h]
  rfl

theorem className?_of_ne {words c : String} (ht : c ≠ "type") (he : c ≠ "enum.EnumType") :
    className? (.foreign words c) = none := by
  unfold className?
  split
  · rename_i h; cases h; exact absurd rfl ht
  · rename_i h; cases h; exact absurd rfl he
  · rfl

/-- The class of errors of encoding, or the one of decoding. -/
def IsCodecError (className : String) : Prop :=
  className = "solbcs.errors.BcsEncodeError" ∨ className = "solbcs.errors.BcsDecodeError"

section Classes

variable {className : String}

theorem isErrorName_of_isCodecError (h : IsCodecError className) : isErrorName (lastPart className) = true := by
  rcases h with rfl | rfl <;> decide +kernel

theorem error?_of_isCodecError (h : IsCodecError className) (words : String) :
    error? (.foreign words className) = some (className, words) := by
  have hclass : className? (.foreign words className) = none := by
    rcases h with rfl | rfl <;> exact className?_of_ne (by decide) (by decide)
  unfold error?
  rw [hclass]
  exact if_pos (isErrorName_of_isCodecError h)

theorem construct_of_isCodecError (h : IsCodecError className) (words : String) :
    construct className [.text words] = .ok (.foreign words className) := by
  have hconstruct : construct className [.text words] =
      if isErrorName (lastPart className) then
        (errorWords className [.text words]).map fun words => .foreign words className
      else .error .wrongType := by
    rcases h with rfl | rfl <;> (unfold construct; rfl)
  rw [hconstruct, if_pos (isErrorName_of_isCodecError h)]
  rcases h with rfl | rfl <;> rfl

theorem callFor_of_isCodecError (h : IsCodecError className) (s : Setting) (words : String) :
    s.callFor (classValue className) [.text words] [] = .ok (.foreign words className) := by
  have hclass : className? (classValue className) = some className := by
    rcases h with rfl | rfl <;> decide +kernel
  have hfunction : functionName? (classValue className) = none := rfl
  simp [Setting.callFor, callValue, callPlain, hclass, hfunction, construct_of_isCodecError h]

end Classes

/-- A number fills its place with its numeral, if it has one. -/
theorem shown_integer (n : Int) : shown none [] (.integer n) =
    if Text.isTooLong n then .error .badValue else .ok (toString n).toList := by
  have hlacks : (Value.integer n).lacks "__str__" = false := rfl
  change (Value.integer n).shownText.map String.toList = _
  rw [Value.shownText, Value.displayFault?, hlacks, Value.literalFault?]
  cases Text.isTooLong n <;> rfl

section Choices

variable {s : Setting} {given : List (String × Value)} {e v : Value}

/-- What is raised is what the class of errors makes of the words, among which the choice is shown. -/
theorem raise_ofName {key className : String} {cs : List Char} (he : s.lookUp given errorName = .ok e)
    (hv : s.lookUp given "choice" = .ok v) (hshown : shown none [] v = .ok cs)
    (hcall : ∀ words, s.callFor e [.text words] [] = .ok (.foreign words className))
    (herror : ∀ words, error? (.foreign words className) = some (className, words)) :
    (ofName key).raise s given =
      .ok (className, "Invalid variant index " ++ String.ofList cs ++ " for " ++ key) := by
  have hfilled : ∀ front back, (filled s [.text front, .fill (.name "choice") none [], .text back]).run given =
      .ok (front.toList ++ cs ++ back.toList, given) := fun front back => by
    simp [filled, value, hv, hshown]
  rw [ofName, String.append_assoc]
  generalize "Invalid variant index " = front
  generalize " for " ++ key = back
  simp [raise, value, argumentValues, he, hfilled, addArgument, hcall, herror, isCause, String.append_assoc]
  rfl

end Choices

end Refusal

/-! ## Refused choices -/

theorem isTooLong_of_lt {n : Nat} (h : n < 2 ^ 64) : Text.isTooLong n = false := by
  have hpow : 2 ^ 64 ≤ 10 ^ mostDigits :=
    Nat.le_trans (by decide : 2 ^ 64 ≤ 10 ^ 20) (Nat.pow_le_pow_right (by decide) (by decide))
  simp [isTooLong]
  omega

/-- A choice is refused in words that name the key, by the class of errors that the setting has for refusals. -/
theorem refusal_of_isLiteral {key className : String} (hk : Refusal.IsLiteral key)
    (hclass : Refusal.IsCodecError className) {s : Setting} {given : List (String × Value)} {n : Int}
    (he : s.lookUp given Refusal.errorName = .ok (classValue className))
    (hv : s.lookUp given "choice" = .ok (.integer n)) (hl : Text.isTooLong n = false) :
    refusal key s given = ofRaised className ("Invalid variant index " ++ toString n ++ " for " ++ key) := by
  have hshown : shown none [] (.integer n) = .ok (toString n).toList := by
    rw [Refusal.shown_integer, hl]
    rfl
  unfold refusal
  rw [Refusal.ofKey_of_isLiteral hk, ok_bind, Refusal.raise_ofName he hv hshown
    (Refusal.callFor_of_isCodecError hclass s) (Refusal.error?_of_isCodecError hclass), String.ofList_toList]

theorem ofRaised_decode (words : String) :
    ofRaised "solbcs.errors.BcsDecodeError" words = .decode (.noSuchVariant words) := by
  have herror : lastPart "solbcs.errors.BcsDecodeError" = "BcsDecodeError" := rfl
  simp only [ofRaised, herror]

theorem decodeRefusal_of_isLiteral (c : Codec) {key : String} (hk : Refusal.IsLiteral key) {n : Nat} (hn : n < 2 ^ 64) :
    c.decodeRefusal key n = .decode (.noSuchVariant ("Invalid variant index " ++ toString n ++ " for " ++ key)) :=
  (refusal_of_isLiteral hk (Or.inr rfl) rfl rfl (isTooLong_of_lt hn)).trans (ofRaised_decode _)

/-! ## Settings -/

/-- What a refusal under a plain key raises is told by the class of errors and the choice. -/
theorem Refusal.raise_congr {s s' : Setting} {given : List (String × Value)} {e v : Value} (key : String)
    (he : s.lookUp given errorName = .ok e) (he' : s'.lookUp given errorName = .ok e)
    (hv : s.lookUp given "choice" = .ok v) (hv' : s'.lookUp given "choice" = .ok v)
    (hcall : ∀ plain, s.callFor e plain [] = s'.callFor e plain []) :
    (ofName key).raise s given = (ofName key).raise s' given := by
  have hrun : (value s (ofName key).raised).run given = (value s' (ofName key).raised).run given := by
    rw [ofName]
    generalize "Invalid variant index " = front
    generalize " for " ++ key = back
    simp [value, argumentValues, filled, he, he', hv, hv', addArgument, hcall]
  have hcause : (ofName key).cause = none := rfl
  simp only [raise, hrun, hcause]

/-- The settings of two codecs make no difference to a refusal under a plain key. -/
theorem refusal_congr (c c' : Codec) {key : String} (hk : Text.IsName key) {errorClass choice : Value}
    {later : List String} {given : List (String × Value)} (hclass : functionName? errorClass = none)
    (hl : Refusal.errorName ∉ later) (he : given.lookup Refusal.errorName = none)
    (hv : given.lookup "choice" = some choice) :
    refusal key (c.setting errorClass later) given = refusal key (c'.setting errorClass later) given := by
  have herror : ∀ c : Codec, (c.setting errorClass later).lookUp given Refusal.errorName = .ok errorClass := fun c => by
    simp [setting, Setting.lookUp, he, hl]
  have hchoice : ∀ c : Codec, (c.setting errorClass later).lookUp given "choice" = .ok choice := fun c => by
    simp [setting, Setting.lookUp, hv]
  have hcall : ∀ (c : Codec) (plain : List Value), (c.setting errorClass later).callFor errorClass plain [] =
      callValue errorClass plain [] := fun c plain => by
    simp [Setting.callFor, hclass]
  unfold refusal
  rw [Refusal.ofKey_of_isLiteral (Refusal.isLiteral_of_isName hk), ok_bind, ok_bind,
    Refusal.raise_congr key (herror c) (herror c') (hchoice c) (hchoice c') fun plain =>
      (hcall c plain).trans (hcall c' plain).symm]

theorem encodeRefusal_congr (c c' : Codec) {key : String} (hk : Text.IsName key) (v choice : Value) :
    c.encodeRefusal key v choice = c'.encodeRefusal key v choice :=
  refusal_congr c c' hk rfl List.not_mem_nil rfl rfl

theorem decodeRefusal_congr (c c' : Codec) {key : String} (hk : Text.IsName key) (choice : Nat) :
    c.decodeRefusal key choice = c'.decodeRefusal key choice :=
  refusal_congr c c' hk rfl (by decide) rfl rfl

end SolidityWire.Codec
