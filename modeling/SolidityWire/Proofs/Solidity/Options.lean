/-
Which options are honoured. The name of a library is to be an identifier, since it stands as it is in the head of the
library and in the remark at its end; but a line feed behind the identifier is passed over, and then each of the two
goes over to the next line. Only this format and only enumerations that are values of their own can be asked for.
-/
import SolidityWire.Proofs.Solidity.Generation

namespace SolidityWire.Solidity

/-! ## Identifiers -/

/-- An ASCII letter, an underscore or a dollar sign. -/
def IsInitial (c : Char) : Prop :=
  ('A' ≤ c ∧ c ≤ 'Z') ∨ ('a' ≤ c ∧ c ≤ 'z') ∨ c = '_' ∨ c = '$'

/-- A character that begins identifiers, and behind it any number of such characters and ASCII digits. -/
def IsIdentifier (name : String) : Prop :=
  ∃ first rest, name.toList = first :: rest ∧ IsInitial first ∧ ∀ c ∈ rest, IsInitial c ∨ ('0' ≤ c ∧ c ≤ '9')

theorem isDigit_iff {c : Char} : c.isDigit = true ↔ '0' ≤ c ∧ c ≤ '9' := by
  change (decide ('0' ≤ c) && decide (c ≤ '9')) = true ↔ _
  rw [Bool.and_eq_true, decide_eq_true_iff, decide_eq_true_iff]

theorem isAlpha_iff {c : Char} : c.isAlpha = true ↔ ('A' ≤ c ∧ c ≤ 'Z') ∨ ('a' ≤ c ∧ c ≤ 'z') := by
  change (decide ('A' ≤ c ∧ c ≤ 'Z') || (decide ('a' ≤ c) && decide (c ≤ 'z'))) = true ↔ _
  rw [Bool.or_eq_true, Bool.and_eq_true, decide_eq_true_iff, decide_eq_true_iff, decide_eq_true_iff]

theorem isModuleStart_iff {c : Char} : isModuleStart c = true ↔ IsInitial c := by
  simp only [isModuleStart, IsInitial, Bool.or_eq_true, isAlpha_iff, decide_eq_true_eq, or_assoc]

theorem isModulePart_iff {c : Char} : isModulePart c = true ↔ IsInitial c ∨ ('0' ≤ c ∧ c ≤ '9') := by
  simp only [isModulePart, Bool.or_eq_true, isModuleStart_iff, isDigit_iff]

theorem IsInitial.ne_newline {c : Char} (h : IsInitial c) : c ≠ '\n' := by
  rintro rfl
  revert h
  unfold IsInitial
  decide

theorem IsIdentifier.not_newline {name : String} (h : IsIdentifier name) : '\n' ∉ name.toList := by
  obtain ⟨first, rest, htext, hfirst, hrest⟩ := h
  rw [htext]
  intro hmem
  rcases List.mem_cons.1 hmem with heq | hmem
  · exact hfirst.ne_newline heq.symm
  · rcases hrest _ hmem with hinitial | hdigit
    · exact hinitial.ne_newline rfl
    · revert hdigit
      decide

/-- A text without a line feed is what remains of itself, and of itself with a line feed behind it. -/
theorem dropFinalNewline_eq_iff {cs ds : List Char} (h : '\n' ∉ ds) :
    dropFinalNewline cs = ds ↔ cs = ds ∨ cs = ds ++ ['\n'] := by
  unfold dropFinalNewline
  constructor
  · intro heq
    split at heq
    · rename_i hlast
      obtain ⟨front, rfl⟩ := List.getLast?_eq_some_iff.1 hlast
      rw [List.dropLast_concat] at heq
      exact Or.inr (congrArg (· ++ ['\n']) heq)
    · exact Or.inl heq
  · rintro (rfl | rfl)
    · exact if_neg fun hlast => h (List.mem_of_getLast? hlast)
    · rw [if_pos List.getLast?_concat, List.dropLast_concat]

/-- The name of a library is an identifier, or one with a line feed behind it. -/
theorem isModuleName_iff {name : String} :
    isModuleName name = true ↔ ∃ n, IsIdentifier n ∧ (name = n ∨ name = n ++ "\n") := by
  have hsplit : isModuleName name = true ↔ ∃ first rest, dropFinalNewline name.toList = first :: rest ∧
      IsInitial first ∧ ∀ c ∈ rest, IsInitial c ∨ ('0' ≤ c ∧ c ≤ '9') := by
    unfold isModuleName
    cases dropFinalNewline name.toList with
    | nil => simp
    | cons first rest => simp [isModuleStart_iff, isModulePart_iff]
  have hname : ∀ n, (name = n ∨ name = n ++ "\n") ↔ name.toList = n.toList ∨ name.toList = n.toList ++ ['\n'] := by
    intro n
    rw [← String.toList_inj, ← String.toList_inj, String.toList_append]
    rfl
  rw [hsplit]
  constructor
  · rintro ⟨first, rest, htext, hchars⟩
    have hn : IsIdentifier (String.ofList (first :: rest)) := ⟨first, rest, String.toList_ofList, hchars⟩
    refine ⟨_, hn, (hname _).2 ((dropFinalNewline_eq_iff hn.not_newline).1 ?_)⟩
    rw [htext, String.toList_ofList]
  · rintro ⟨n, hn, hnamed⟩
    obtain ⟨first, rest, htext, hchars⟩ := id hn
    refine ⟨first, rest, ?_, hchars⟩
    rw [← htext, dropFinalNewline_eq_iff hn.not_newline]
    exact (hname n).1 hnamed

/-! ## Options -/

namespace Config

variable {config : Config}

/-- The name of the library is an identifier, or one with a line feed behind it. -/
def IsNamed (config : Config) : Prop :=
  ∃ n, IsIdentifier n ∧ (config.moduleName = n ∨ config.moduleName = n ++ "\n")

/-- What is asked for and cannot be had; of several such things it is the first one. -/
inductive Conflicts (config : Config) : ConfigConflict → Prop
  | name (unnamed : ¬config.IsNamed) : Conflicts config (.badModuleName config.moduleName)
  | enums (named : config.IsNamed) (enums : config.cStyleEnums = true) : Conflicts config .cStyleEnums
  | format (named : config.IsNamed) (plain : config.cStyleEnums = false) {f : Encoding} (asked : f ∈ config.encodings)
    (other : f ≠ .bcs) : Conflicts config (.unsupportedEncodings [f.name])

theorem IsNamed.isIdentifier_iff (h : config.IsNamed) :
    IsIdentifier config.moduleName ↔ '\n' ∉ config.moduleName.toList := by
  refine ⟨IsIdentifier.not_newline, fun hline => ?_⟩
  obtain ⟨n, hn, hname | hname⟩ := h
  · rwa [hname]
  · rw [hname, String.toList_append] at hline
    exact absurd (List.mem_append_right _ (by decide)) hline

theorem conflict?_eq_none : config.conflict? = none ↔
    config.IsNamed ∧ config.cStyleEnums = false ∧ ∀ f ∈ config.encodings, f = .bcs := by
  have hformats : config.unsupportedEncodings.isEmpty = true ↔ ∀ f ∈ config.encodings, f = .bcs := by
    unfold unsupportedEncodings
    split
    · rename_i hasked
      refine ⟨fun h => (nomatch h), fun h => ?_⟩
      exact nomatch h _ (List.contains_iff_mem.1 hasked)
    · rename_i hasked
      refine ⟨fun _ f hf => ?_, fun _ => rfl⟩
      cases f with
      | bcs => rfl
      | bincode => exact absurd (List.contains_iff_mem.2 hf) hasked
  unfold conflict?
  rw [ite_some_eq_none, ite_some_eq_none, ite_some_eq_none, ← hformats, IsNamed, ← isModuleName_iff]
  simp

theorem conflict?_eq_some {c : ConfigConflict} : config.conflict? = some c ↔ config.Conflicts c := by
  have hnamed : isModuleName config.moduleName = true ↔ config.IsNamed := isModuleName_iff
  unfold conflict?
  constructor
  · intro h
    split at h
    · rename_i hname
      cases h
      exact .name fun hn => by simp [hnamed.2 hn] at hname
    rename_i hname
    have hn : config.IsNamed := hnamed.1 (by simpa using hname)
    split at h
    · rename_i henums
      cases h
      exact .enums hn henums
    rename_i henums
    unfold unsupportedEncodings at h
    split at h
    · rename_i hasked
      cases h
      exact .format hn (by simpa using henums) (List.contains_iff_mem.1 hasked) nofun
    · cases h
  · intro h
    cases h with
    | name unnamed => rw [if_pos (by simpa using mt hnamed.1 unnamed)]
    | enums named henums => rw [if_neg (by simpa using hnamed.2 named), if_pos henums]
    | @format named plain f asked other =>
      obtain rfl : f = .bincode := by
        cases f with
        | bcs => exact absurd rfl other
        | bincode => rfl
      rw [if_neg (by simpa using hnamed.2 named), if_neg (by simp [plain]), unsupportedEncodings,
        if_pos (List.contains_iff_mem.2 asked)]
      rfl

theorem validate_eq_ok : config.validate = .ok () ↔
    config.IsNamed ∧ config.cStyleEnums = false ∧ ∀ f ∈ config.encodings, f = .bcs := by
  rw [← conflict?_eq_none, validate]
  cases config.conflict? <;> simp

theorem validate_eq_error {e : Error} : config.validate = .error e ↔ ∃ c, e = .conflict c ∧ config.Conflicts c := by
  simp only [← conflict?_eq_some]
  rw [validate]
  cases config.conflict? <;> simp [eq_comm]

end Config

/-! ## The name in the source -/

/-- The head of a library. -/
def libraryHead (name : String) : String :=
  "library " ++ name ++ opening

/-- The remark at the end of a library. -/
def libraryEnd (name : String) : String :=
  closing ++ " // end of library " ++ name

theorem libraryHead_line {name : String} : '\n' ∉ (libraryHead name).toList ↔ '\n' ∉ name.toList := by
  have hhead : '\n' ∉ "library ".toList ∧ '\n' ∉ opening.toList := by decide
  simp [libraryHead, hhead]

theorem libraryEnd_line {name : String} : '\n' ∉ (libraryEnd name).toList ↔ '\n' ∉ name.toList := by
  have hend : '\n' ∉ closing.toList ∧ '\n' ∉ " // end of library ".toList := by decide
  simp [libraryEnd, hend]

/-- The head and the remark each stand between line feeds. -/
theorem Source.exists_text (s : Source) : ∃ before between, s.text =
    before ++ "\n" ++ libraryHead s.library ++ "\n" ++ between ++ "\n" ++ libraryEnd s.library ++ "\n" := by
  obtain ⟨front, middle, hlines, hfront, hmiddle⟩ : ∃ front middle,
      s.lines = front ++ ([libraryHead s.library] ++ (middle ++ [libraryEnd s.library])) ∧
        front ≠ [] ∧ middle ≠ [] := by
    refine ⟨["/// SPDX-License-Identifier: " ++ s.license, "pragma solidity " ++ s.version ++ ";"] ++
      s.functions.flatMap (fun f => "" :: f.lines) ++ [""],
      s.groups.flatMap (fun group => "" :: indent (groupLines group)) ++ [""], ?_, by simp, by simp⟩
    simp [Source.lines, libraryHead, libraryEnd]
  refine ⟨"\n".intercalate front, "\n".intercalate middle, ?_⟩
  rw [Source.text, hlines, String.intercalate_append_of_ne_nil hfront (by simp),
    String.intercalate_append_of_ne_nil (by simp) (by simp), String.intercalate_append_of_ne_nil hmiddle (by simp),
    String.intercalate_singleton, String.intercalate_singleton]
  simp only [String.append_assoc]

theorem exists_text_of_writeTable {t : Table} {config : Config} {text : String} (h : writeTable t config = .ok text) :
    ∃ before between, text = before ++ "\n" ++ libraryHead config.moduleName ++ "\n" ++ between ++ "\n" ++
      libraryEnd config.moduleName ++ "\n" := by
  obtain ⟨s, hs, rfl⟩ := map_eq_ok.1 h
  obtain ⟨groups, -, hs⟩ := bind_eq_ok.1 hs
  cases pure_eq_ok.1 hs
  exact Source.exists_text _

/-- Options are found valid exactly if the name is an identifier, or one with a line feed behind it, and nothing else
is asked for than what there is; otherwise the first thing is told that cannot be had. In what is written with valid
options the head of the library and the remark at its end each stay on their line exactly if the name is an
identifier. -/
theorem options_honoured (config : Config) :
    (config.validate = .ok () ↔
      config.IsNamed ∧ config.cStyleEnums = false ∧ ∀ f ∈ config.encodings, f = .bcs) ∧
    (∀ e, config.validate = .error e ↔ ∃ c, e = .conflict c ∧ config.Conflicts c) ∧
    ∀ t text, config.validate = .ok () → writeTable t config = .ok text →
      (∃ before between, text = before ++ "\n" ++ libraryHead config.moduleName ++ "\n" ++ between ++ "\n" ++
        libraryEnd config.moduleName ++ "\n") ∧
      ('\n' ∉ (libraryHead config.moduleName).toList ↔ IsIdentifier config.moduleName) ∧
      ('\n' ∉ (libraryEnd config.moduleName).toList ↔ IsIdentifier config.moduleName) := by
  refine ⟨Config.validate_eq_ok, fun e => Config.validate_eq_error, fun t text hvalid htext => ?_⟩
  have hname := (Config.validate_eq_ok.1 hvalid).1.isIdentifier_iff
  rw [libraryHead_line, libraryEnd_line, ← hname]
  exact ⟨exists_text_of_writeTable htext, Iff.rfl, Iff.rfl⟩

/-- A registry is written as a library of the name. -/
theorem options_honoured_pair : plain.config.validate = .ok () ∧ ∃ t text, Registry.pair.lower.result = .ok t ∧
    writeTable t plain.config = .ok text ∧ ∃ before between,
      text = before ++ "\n" ++ "library M \x7b" ++ "\n" ++ between ++ "\n" ++ "\x7d // end of library M" ++ "\n" := by
  obtain ⟨t, ht⟩ := lower_pair
  have htext := writeTable_eq ht plain.config
  exact ⟨plain.valid, t, _, ht, htext, ((options_honoured plain.config).2.2 t _ plain.valid htext).1⟩

/-- The name of a library that is an identifier but for the line feed behind it. -/
def brokenName : Config where
  moduleName := "M\n"

/-- The name is found valid, though it is no identifier and the head of its library is no line. -/
theorem validate_brokenName : brokenName.validate = .ok () ∧ ¬IsIdentifier brokenName.moduleName ∧
    libraryHead brokenName.moduleName = "library M\n \x7b" ∧
    ¬∀ config : Config, config.validate = .ok () ↔
      IsIdentifier config.moduleName ∧ config.cStyleEnums = false ∧ ∀ f ∈ config.encodings, f = .bcs := by
  have hvalid : brokenName.validate = .ok () := rfl
  have hname : ¬IsIdentifier brokenName.moduleName := fun h => h.not_newline (by decide)
  exact ⟨hvalid, hname, rfl, fun hall => hname ((hall brokenName).1 hvalid).1⟩

end SolidityWire.Solidity
