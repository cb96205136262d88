/-
Which types can be made. A record has fields that are different identifiers once words that are reserved where records
are used have their underscores; an enumeration has different members, and no names that are in the way of what it has
for itself. For names that begin with a letter little of this is left to ask.
-/
import SolidityWire.Proofs.Codec.Sound
import SolidityWire.Proofs.Text.Underscore
import SolidityWire.Proofs.Text.Word

namespace SolidityWire.Codec

open Text (isIdentifier compatible)

/-! ## Records -/

/-- The names of the fields can be those of a record. -/
structure RecordType.WellNamed (t : RecordType) : Prop where
  identifiers : ∀ name ∈ t.names, isIdentifier name = true ∧ compatible name = name
  distinct : t.names.Nodup
  self : "self" ∈ t.names → "__dataclass_self__" ∉ t.names
  free : ∀ name ∈ ["__annotations__", "__debug__", "__dict__"], name ∉ t.names
  laidOut : t.hasOwnDefaults = true → ∀ name ∈ spoilingNames, name ∉ t.names

namespace RecordType

theorem hasField_iff {t : RecordType} {name : String} : t.hasField name = true ↔ name ∈ t.names :=
  List.contains_iff_mem

/-- A record has no name for itself only if both names for it are taken. -/
theorem ownName_mem_iff {names : List String} :
    ownName names ∈ names ↔ "self" ∈ names ∧ "__dataclass_self__" ∈ names := by
  unfold ownName
  split
  · rename_i h
    simp [List.contains_iff_mem.1 h]
  · rename_i h
    have hself : "self" ∉ names := fun hmem => h (List.contains_iff_mem.2 hmem)
    simp [hself]

theorem compatible_ownName (names : List String) : compatible (ownName names) = ownName names := by
  unfold ownName
  split <;> rfl

theorem areParameters_iff {names : List String} (h : ∀ name ∈ names, compatible name = name) :
    areParameters names = true ↔
      names.Nodup ∧ ("self" ∈ names → "__dataclass_self__" ∉ names) ∧ "__debug__" ∉ names := by
  have hforms : (ownName names :: names).map compatible = ownName names :: names := by
    rw [List.map_cons, compatible_ownName]
    congr 1
    simpa using List.map_congr_left (g := id) h
  have hdebug : ownName names ≠ "__debug__" := by
    unfold ownName
    split <;> decide
  unfold areParameters
  rw [hforms]
  simp only [Bool.and_eq_true, decide_eq_true_eq, List.nodup_cons, ownName_mem_iff, Bool.not_eq_true',
    ← Bool.not_eq_true, List.contains_iff_mem, List.mem_cons, hdebug.symm, false_or, not_and]
  tauto

/-- A record can be made exactly if its names can be those of one. -/
theorem fault?_eq_none {t : RecordType} : t.fault? = none ↔ t.WellNamed := by
  have hchecks : t.fault? = none ↔ ((∀ name ∈ t.names, isIdentifier name = true) ∧ t.names.Nodup) ∧
      (t.hasOwnDefaults = true → ∀ name ∈ spoilingNames, name ∉ t.names) ∧
      ("__annotations__" ∉ t.names ∧ "__dict__" ∉ t.names) ∧ areParameters t.names = true ∧
      ∀ name ∈ t.names, compatible name = name := by
    unfold fault?
    simp only [ite_some_eq_none]
    simp [hasField_iff]
  rw [hchecks]
  constructor
  · rintro ⟨⟨hidentifiers, hdistinct⟩, hlayout, ⟨hannotations, hdict⟩, hparameters, hcompatible⟩
    obtain ⟨-, hself, hdebug⟩ := (areParameters_iff hcompatible).1 hparameters
    exact ⟨fun name hname => ⟨hidentifiers name hname, hcompatible name hname⟩, hdistinct, hself,
      by simpa using ⟨hannotations, hdebug, hdict⟩, hlayout⟩
  · intro h
    have hcompatible := fun name hname => (h.identifiers name hname).2
    exact ⟨⟨fun name hname => (h.identifiers name hname).1, h.distinct⟩, h.laidOut,
      ⟨h.free _ (by decide), h.free _ (by decide)⟩,
      (areParameters_iff hcompatible).2 ⟨h.distinct, h.self, h.free _ (by decide)⟩, hcompatible⟩

end RecordType

/-! ## Fields -/

theorem underscores_fieldName : Text.Underscores (· ∈ Formula.keywords) fieldName where
  of_taken h := if_pos (List.contains_iff_mem.2 h)
  of_free h := if_neg fun hmem => h (List.contains_iff_mem.1 hmem)

/-- Keywords are words without underscores. -/
theorem isWord_keyword : ∀ word ∈ Formula.keywords, Text.IsWord word ∧ '_' ∉ word.toList := by
  decide

/-- A keyword with an underscore behind it is an identifier, and no keyword. -/
theorem keyword_underscore (word : String) (h : word ∈ Formula.keywords) : word ++ "_" ∉ Formula.keywords ∧
    (isIdentifier word = true ∧ compatible word = word) ∧
    (isIdentifier (word ++ "_") = true ∧ compatible (word ++ "_") = word ++ "_") := by
  obtain ⟨hword, -⟩ := isWord_keyword word h
  have hlonger : Text.IsWord (word ++ "_") := hword.append (List.all_eq_true.1 (by decide))
  refine ⟨fun hmem => (isWord_keyword _ hmem).2 ?_, ⟨hword.isIdentifier, hword.isName.compatible_eq⟩,
    hlonger.isIdentifier, hlonger.isName.compatible_eq⟩
  rw [String.toList_append]
  exact List.mem_append_right _ List.mem_cons_self

/-- The names of which the checks of records speak. -/
def spokenNames : List String :=
  ["self", "__dataclass_self__", "__annotations__", "__debug__", "__dict__", "choice"] ++ spoilingNames

theorem fieldName_of_spoken : ∀ name ∈ spokenNames, fieldName name = name ∧
    ∀ word ∈ Formula.keywords, word ++ "_" ≠ name := by
  decide

/-- A name of which the checks speak is met after renaming where it has been before. -/
theorem mem_map_fieldName {name : String} (h : name ∈ spokenNames) {names : List String} :
    name ∈ names.map fieldName ↔ name ∈ names := by
  obtain ⟨hname, hwords⟩ := fieldName_of_spoken name h
  refine ⟨fun hmem => ?_, fun hmem => List.mem_map.2 ⟨name, hmem, hname⟩⟩
  obtain ⟨field, hfield, rfl⟩ := List.mem_map.1 hmem
  by_cases hword : field ∈ Formula.keywords
  · exact absurd (underscores_fieldName.of_taken hword).symm (hwords field hword)
  · rwa [underscores_fieldName.of_free hword]

/-- The names can be those of the fields of a record, which words that are reserved get with an underscore. -/
structure AreFields (names : List String) : Prop where
  identifiers : ∀ name ∈ names, isIdentifier name = true ∧ compatible name = name
  apart : ∀ name ∈ names, name ∈ Formula.keywords → name ++ "_" ∉ names
  self : "self" ∈ names → "__dataclass_self__" ∉ names
  free : ∀ name ∈ ["__annotations__", "__debug__", "__dict__"], name ∉ names

theorem identifiers_fieldName {name : String} :
    isIdentifier (fieldName name) = true ∧ compatible (fieldName name) = fieldName name ↔
      isIdentifier name = true ∧ compatible name = name := by
  by_cases h : name ∈ Formula.keywords
  · obtain ⟨-, hword, hrenamed⟩ := keyword_underscore name h
    rw [underscores_fieldName.of_taken h]
    exact iff_of_true hrenamed hword
  · rw [underscores_fieldName.of_free h]

theorem nodup_fieldNames_iff {names : List String} (hnodup : names.Nodup) :
    (names.map fieldName).Nodup ↔ ∀ name ∈ names, name ∈ Formula.keywords → name ++ "_" ∉ names := by
  rw [underscores_fieldName.nodup_map hnodup]
  exact forall₃_congr fun name _ hword => imp_congr_right fun _ => iff_false_intro (keyword_underscore name hword).1

/-- A record with such fields can be made. -/
theorem wellNamed_iff {t : RecordType} {names : List String} (ht : t.names = names.map fieldName)
    (hnodup : names.Nodup) : t.WellNamed ↔ AreFields names ∧
      (t.hasOwnDefaults = true → ∀ name ∈ spoilingNames, name ∉ names) := by
  have hspoken : ∀ name ∈ spokenNames, (name ∈ t.names ↔ name ∈ names) := fun name hname => by
    rw [ht]
    exact mem_map_fieldName hname
  have hidentifiers : (∀ name ∈ t.names, isIdentifier name = true ∧ compatible name = name) ↔
      ∀ name ∈ names, isIdentifier name = true ∧ compatible name = name := by
    rw [ht, List.forall_mem_map]
    exact forall₂_congr fun _ _ => identifiers_fieldName
  have hself : ("self" ∈ t.names → "__dataclass_self__" ∉ t.names) ↔
      ("self" ∈ names → "__dataclass_self__" ∉ names) := by
    rw [hspoken "self" (by decide), hspoken "__dataclass_self__" (by decide)]
  have hfree : ∀ words ⊆ spokenNames, (∀ name ∈ words, name ∉ t.names) ↔ ∀ name ∈ words, name ∉ names :=
    fun words hwords => forall₂_congr fun name hname => not_congr (hspoken name (hwords hname))
  have hdistinct : t.names.Nodup ↔ _ := ht ▸ nodup_fieldNames_iff hnodup
  have hnames := hfree ["__annotations__", "__debug__", "__dict__"] (by decide)
  have hlayout := hfree spoilingNames (by decide)
  constructor
  · intro h
    exact ⟨⟨hidentifiers.1 h.identifiers, hdistinct.1 h.distinct, hself.1 h.self, hnames.1 h.free⟩,
      fun hd => hlayout.1 (h.laidOut hd)⟩
  · rintro ⟨h, hd⟩
    exact ⟨hidentifiers.2 h.identifiers, hdistinct.2 h.apart, hself.2 h.self, hnames.2 h.free,
      fun hown => hlayout.2 (hd hown)⟩

/-! ## Names of enumerations -/

/-- Whether the name gives the order of the members. -/
def isOrder (name : String) : Bool :=
  name = "_order_" || name = "__order__"

/-- Whether the name becomes a member. -/
def isMember (typeName name : String) : Bool :=
  !isPrivate typeName name && !isEnclosed 1 name && !isEnclosed 2 name

/-- Whether the name becomes an attribute that is no member. -/
def isAttribute (typeName name : String) : Bool :=
  isPrivate typeName name || !isOrder name && (hookNames.contains name || isEnclosed 2 name)

/-- Whether there may be such a name at all. -/
def isUsable (typeName name : String) : Bool :=
  isPrivate typeName name || !isEnclosed 1 name || name = "_order_" || hookNames.contains name

/-- Two underscores stand inside a private name. -/
theorem underscores_of_isPrivate {typeName name : String} (h : isPrivate typeName name = true) :
    ['_', '_'] <:+: name.toList.tail.dropLast := by
  unfold isPrivate at h
  simp only [Bool.and_eq_true, decide_eq_true_eq] at h
  obtain ⟨⟨hstart, hlength⟩, -⟩ := h
  rw [String.startsWith_string_iff, String.toList_append, String.toList_append] at hstart
  obtain ⟨rest, hrest⟩ := hstart
  have hne : rest ≠ [] := by
    rintro rfl
    rw [← String.length_toList, ← String.length_toList, ← hrest, String.toList_append, String.toList_append,
      List.append_nil] at hlength
    exact Nat.lt_irrefl _ hlength
  refine ⟨typeName.toList, rest.dropLast, ?_⟩
  rw [← hrest, show "_".toList = ['_'] from rfl, show "__".toList = ['_', '_'] from rfl]
  simp only [List.append_assoc, List.cons_append, List.tail_cons, List.nil_append]
  rw [List.dropLast_append_of_ne_nil (by simp), List.dropLast_cons_of_ne_nil (by simp),
    List.dropLast_cons_of_ne_nil hne]

theorem isPrivate_eq_false {typeName name : String} (h : ¬['_', '_'] <:+: name.toList.tail.dropLast) :
    isPrivate typeName name = false :=
  Bool.eq_false_iff.2 fun hp => h (underscores_of_isPrivate hp)

/-! ## Enumerations -/

namespace EnumType

/-- The enumeration with one name more. -/
def after (typeName : String) (t : EnumType) (name : String) (ordinal : Nat) : EnumType where
  members := if isMember typeName name then t.members ++ [(name, ordinal)] else t.members
  attributes := if isAttribute typeName name then (name, ordinal) :: t.attributes else t.attributes
  order := if isOrder name then ordinal else t.order

theorem isSome_lookup_iff {β : Type} {name : String} {entries : List (String × β)} :
    (entries.lookup name).isSome = true ↔ name ∈ entries.map Prod.fst := by
  rw [← not_iff_not, Bool.not_eq_true, Option.isSome_eq_false_iff, Option.isNone_iff_eq_none, List.lookup_eq_none_iff]
  simp only [bne_iff_ne, List.mem_map, not_exists, not_and]
  exact ⟨fun h p hp he => h p hp he.symm, fun h p hp he => h p hp he.symm⟩

/-- A name can be added if there may be such a name, and no second one if it becomes a member. -/
theorem addName_eq_ok {typeName name : String} {t t' : EnumType} {ordinal : Nat} :
    t.addName typeName name ordinal = .ok t' ↔ isUsable typeName name = true ∧
      (isMember typeName name = true → name ∉ t.members.map Prod.fst) ∧ t.after typeName name ordinal = t' := by
  have hhook : ∀ name ∈ hookNames, isEnclosed 1 name = true := by decide
  unfold addName after isUsable isMember isAttribute
  by_cases hprivate : isPrivate typeName name = true
  · have horder : isOrder name = false := by
      rw [isOrder, Bool.or_eq_false_iff, decide_eq_false_iff_not, decide_eq_false_iff_not]
      constructor <;> rintro rfl <;> exact absurd (underscores_of_isPrivate hprivate) (by decide)
    simp [hprivate, horder]
  by_cases horder : name = "_order_" ∨ name = "__order__"
  · rcases horder with rfl | rfl
    · have henclosed : isEnclosed 1 "_order_" = true := by decide
      simp [hprivate, henclosed, isOrder]
    · have henclosed : isEnclosed 1 "__order__" = false ∧ isEnclosed 2 "__order__" = true := by decide
      simp [hprivate, henclosed, isOrder]
  have hname : isOrder name = false := by simpa [isOrder] using horder
  by_cases h1 : isEnclosed 1 name = true
  · by_cases hmem : name ∈ hookNames
    · simp [hprivate, horder, hname, h1, hmem]
    · simp only [hprivate, horder, h1, hmem, List.contains_iff_mem, Bool.false_eq_true, if_true, if_false]
      split <;> simp_all
  have hhooks : name ∉ hookNames := fun hmem => h1 (hhook name hmem)
  by_cases h2 : isEnclosed 2 name = true
  · simp [hprivate, horder, hname, h1, h2]
  · simp only [hprivate, horder, h1, h2, isSome_lookup_iff, Bool.false_eq_true, if_false]
    by_cases hmem : name ∈ t.members.map Prod.fst
    · simp [hmem]
    · simp [hmem, hname, hhooks]

/-- The enumeration with further names, the first of them with the given ordinal. -/
def afterAll (typeName : String) (t : EnumType) : (ordinal : Nat) → List String → EnumType
  | _, [] => t
  | ordinal, name :: rest => afterAll typeName (t.after typeName name ordinal) (ordinal + 1) rest

section Runs

variable {typeName : String} {t t' : EnumType}

theorem names_after (t : EnumType) (name : String) (ordinal : Nat) :
    (t.after typeName name ordinal).members.map Prod.fst =
      t.members.map Prod.fst ++ [name].filter (isMember typeName) := by
  unfold after
  by_cases h : isMember typeName name = true <;> simp [h]

theorem names_afterAll : ∀ {names : List String} {t : EnumType} {ordinal : Nat},
    (afterAll typeName t ordinal names).members.map Prod.fst =
      t.members.map Prod.fst ++ names.filter (isMember typeName)
  | [], _, _ => by simp [afterAll]
  | name :: rest, t, ordinal => by
    rw [afterAll, names_afterAll, names_after, List.append_assoc, ← List.filter_append]
    rfl

theorem hasAttribute_after {name name' : String} {ordinal : Nat} :
    (t.after typeName name ordinal).hasAttribute name' = true ↔
      isAttribute typeName name = true ∧ name = name' ∨ t.hasAttribute name' = true := by
  unfold hasAttribute after
  rw [isSome_lookup_iff, isSome_lookup_iff]
  by_cases h : isAttribute typeName name = true <;> simp [h, eq_comm]

theorem hasAttribute_afterAll {name : String} (hname : isAttribute typeName name = true) :
    ∀ {names : List String} {t : EnumType} {ordinal : Nat},
      (afterAll typeName t ordinal names).hasAttribute name = true ↔ name ∈ names ∨ t.hasAttribute name = true
  | [], _, _ => by simp [afterAll]
  | name' :: rest, t, ordinal => by
    rw [afterAll, hasAttribute_afterAll hname, hasAttribute_after, List.mem_cons]
    constructor
    · rintro (h | ⟨-, rfl⟩ | h)
      exacts [Or.inl (Or.inr h), Or.inl (Or.inl rfl), Or.inr h]
    · rintro ((rfl | h) | h)
      exacts [Or.inr (Or.inl ⟨hname, rfl⟩), Or.inl h, Or.inr (Or.inr h)]

/-- Behind the first name, an order that is given stays. -/
theorem order_afterAll : ∀ {names : List String} {t : EnumType} {ordinal : Nat}, 0 < ordinal →
    ((afterAll typeName t ordinal names).order = 0 ↔ t.order = 0 ∧ ∀ name ∈ names, isOrder name = false)
  | [], _, _, _ => by simp [afterAll]
  | name :: rest, t, ordinal, hordinal => by
    rw [afterAll, order_afterAll (Nat.succ_pos _), List.forall_mem_cons]
    by_cases h : isOrder name = true
    · simp [after, h, Nat.ne_of_gt hordinal]
    · simp [after, h]

/-- Names can be added if there may be such names, and those that become members are distinct. -/
theorem addNames_eq_ok : ∀ {names : List String} {t t' : EnumType} {ordinal : Nat},
    (t.members.map Prod.fst).Nodup → (t.addNames typeName ordinal names = .ok t' ↔
      (∀ name ∈ names, isUsable typeName name = true) ∧
        (t.members.map Prod.fst ++ names.filter (isMember typeName)).Nodup ∧ t.afterAll typeName ordinal names = t')
  | [], t, t', _, hnodup => by
    simp [addNames, afterAll, hnodup, Except.ok.injEq]
  | name :: rest, t, t', ordinal, hnodup => by
    have hnames : t.members.map Prod.fst ++ (name :: rest).filter (isMember typeName) =
        (t.after typeName name ordinal).members.map Prod.fst ++ rest.filter (isMember typeName) := by
      rw [names_after, List.append_assoc, ← List.filter_append]
      rfl
    have hnew : (isMember typeName name = true → name ∉ t.members.map Prod.fst) ↔
        ((t.after typeName name ordinal).members.map Prod.fst).Nodup := by
      rw [names_after, List.nodup_append_comm]
      by_cases h : isMember typeName name = true <;> simp [h, hnodup]
    rw [addNames, bind_eq_ok, hnames, List.forall_mem_cons, afterAll]
    constructor
    · rintro ⟨t1, h1, h2⟩
      obtain ⟨husable, hmember, rfl⟩ := addName_eq_ok.1 h1
      obtain ⟨hrest, hall, rfl⟩ := (addNames_eq_ok (hnew.1 hmember)).1 h2
      exact ⟨⟨husable, hrest⟩, hall, rfl⟩
    · rintro ⟨⟨husable, hrest⟩, hall, rfl⟩
      have hafter := (List.nodup_append.1 hall).1
      exact ⟨_, addName_eq_ok.2 ⟨husable, hnew.2 hafter, rfl⟩, (addNames_eq_ok hafter).2 ⟨hrest, hall, rfl⟩⟩

end Runs

end EnumType

/-- The names can be those of an enumeration: the members are distinct, and nothing that it has for itself is met. -/
structure AreMembers (typeName : String) (names : List String) : Prop where
  usable : ∀ name ∈ names, isUsable typeName name = true
  distinct : (names.filter (isMember typeName)).Nodup
  free : ∀ name ∈ ["", "mro"] ++ spoilingNames, name ∉ names
  made : (∃ name ∈ names, isMember typeName name = true) → ∀ name ∈ makerNames, name ∉ names
  ordered : ∀ name ∈ names.tail, isOrder name = false

namespace EnumType

theorem isMember_of_plain {typeName : String} : ∀ name ∈ ["", "mro"], isMember typeName name = true := by
  have hplain : ∀ name ∈ ["", "mro"], ¬['_', '_'] <:+: name.toList.tail.dropLast ∧ isEnclosed 1 name = false ∧
      isEnclosed 2 name = false := by
    decide
  intro name hname
  obtain ⟨hinside, h1, h2⟩ := hplain name hname
  simp [isMember, isPrivate_eq_false hinside, h1, h2]

theorem isAttribute_of_own {typeName : String} : ∀ name ∈ spoilingNames ++ makerNames,
    isAttribute typeName name = true := by
  have hown : ∀ name ∈ spoilingNames ++ makerNames, isOrder name = false ∧ isEnclosed 2 name = true := by
    decide
  intro name hname
  simp [isAttribute, hown name hname]

theorem check_eq_ok {t t' : EnumType} : t.check = .ok t' ↔ (∀ name ∈ ["", "mro"], name ∉ t.members.map Prod.fst) ∧
    (∀ name ∈ spoilingNames, t.hasAttribute name = false) ∧
    (t.members ≠ [] → ∀ name ∈ makerNames, t.hasAttribute name = false) ∧ t.order = 0 ∧ t = t' := by
  unfold check
  simp only [ite_error_eq_ok, Bool.or_eq_true, isSome_lookup_iff, Bool.and_eq_true, List.any_eq_true]
  simp

/-- An enumeration can be made exactly if its names can be those of one. -/
theorem exists_ofNames_iff {typeName : String} {names : List String} :
    (∃ t, ofNames typeName names = .ok t) ↔ AreMembers typeName names := by
  -- each check on the type with all names is a condition on the names alone
  have hmembers : (afterAll typeName {} 0 names).members.map Prod.fst = names.filter (isMember typeName) :=
    names_afterAll
  have hfree : ∀ name ∈ ["", "mro"],
      (name ∉ (afterAll typeName {} 0 names).members.map Prod.fst ↔ name ∉ names) := by
    intro name hname
    rw [hmembers, List.mem_filter, isMember_of_plain name hname, and_iff_left rfl]
  have hown : ∀ name ∈ spoilingNames ++ makerNames,
      ((afterAll typeName {} 0 names).hasAttribute name = false ↔ name ∉ names) := by
    intro name hname
    rw [← Bool.not_eq_true, hasAttribute_afterAll (isAttribute_of_own name hname)]
    exact not_congr (or_iff_left (by simp [hasAttribute]))
  have hsome : (afterAll typeName {} 0 names).members ≠ [] ↔ ∃ name ∈ names, isMember typeName name = true := by
    rw [ne_eq, ← List.map_eq_nil_iff (f := Prod.fst), hmembers, List.filter_eq_nil_iff]
    simp
  have horder : (afterAll typeName {} 0 names).order = 0 ↔ ∀ name ∈ names.tail, isOrder name = false := by
    cases names with
    | nil => exact iff_of_true rfl fun _ h => nomatch h
    | cons name rest =>
      rw [afterAll, order_afterAll Nat.one_pos]
      exact and_iff_right (by simp [after])
  have hempty : (({} : EnumType).members.map Prod.fst).Nodup := List.nodup_nil
  have hspoiled := forall₂_congr fun name hname => hown name (List.mem_append_left makerNames hname)
  have hmade := forall₂_congr fun name hname => hown name (List.mem_append_right spoilingNames hname)
  constructor
  · rintro ⟨t, h⟩
    obtain ⟨t1, hadd, hcheck⟩ := bind_eq_ok.1 h
    obtain ⟨husable, hdistinct, rfl⟩ := (addNames_eq_ok hempty).1 hadd
    obtain ⟨hplain, hspoil, hmake, hzero, -⟩ := check_eq_ok.1 hcheck
    exact ⟨husable, hdistinct, List.forall_mem_append.2 ⟨(forall₂_congr hfree).1 hplain, hspoiled.1 hspoil⟩,
      fun hex => hmade.1 (hmake (hsome.2 hex)), horder.1 hzero⟩
  · intro h
    obtain ⟨hplain, hspoil⟩ := List.forall_mem_append.1 h.free
    have hadd : addNames typeName {} 0 names = .ok (afterAll typeName {} 0 names) :=
      (addNames_eq_ok hempty).2 ⟨h.usable, h.distinct, rfl⟩
    exact ⟨_, bind_eq_ok.2 ⟨_, hadd, check_eq_ok.2 ⟨(forall₂_congr hfree).2 hplain, hspoiled.2 hspoil,
      fun hne => hmade.2 (h.made (hsome.1 hne)), horder.2 h.ordered, rfl⟩⟩⟩

end EnumType

/-! ## Words -/

section Words

open Text

variable {names : List String}

/-- Fields that are called by words can only be in the way of each other: a keyword may not meet itself with an
underscore behind it. -/
theorem areFields_iff_of_words (h : ∀ name ∈ names, IsWord name) :
    AreFields names ↔ ∀ name ∈ names, name ∈ Formula.keywords → name ++ "_" ∉ names := by
  refine ⟨AreFields.apart, fun hapart => ⟨fun name hname => ?_, hapart, fun _ hself => ?_, fun name hname hmem => ?_⟩⟩
  · exact ⟨(h name hname).isIdentifier, (h name hname).isName.compatible_eq⟩
  · exact (h _ hself).head?_ne (by decide)
  · have hhead : ∀ name ∈ ["__annotations__", "__debug__", "__dict__"], name.toList.head? = some '_' := by decide
    exact (h _ hmem).head?_ne (hhead name hname)

/-- Variants that are called by words become members, each of them, and only one word is in the way of what an
enumeration has for itself. -/
theorem areMembers_iff_of_words {typeName : String} (h : ∀ name ∈ names, IsWord name) :
    AreMembers typeName names ↔ names.Nodup ∧ "mro" ∉ names := by
  have hown : ∀ name ∈ spoilingNames ++ makerNames ++ ["_order_", "__order__"], name.toList.head? = some '_' := by
    decide
  have hfree : ∀ name ∈ spoilingNames ++ makerNames ++ ["_order_", "__order__"], name ∉ names := fun name hname hmem =>
    (h name hmem).head?_ne (hown name hname)
  have hempty : "" ∉ names := fun hmem => by
    have hhead := (h _ hmem).head
    cases hhead
  have hmembers : names.filter (isMember typeName) = names := by
    refine List.filter_eq_self.2 fun name hname => ?_
    have hhead := (h name hname).head?_ne
    simp [isMember, EnumType.isPrivate_of_head hhead, EnumType.isEnclosed_of_head hhead]
  constructor
  · intro hall
    exact ⟨hmembers ▸ hall.distinct, hall.free "mro" (by simp)⟩
  · rintro ⟨hdistinct, hmro⟩
    refine ⟨fun name hname => ?_, hmembers.symm ▸ hdistinct, ?_, fun _ name hname => ?_, fun name hname => ?_⟩
    · simp [isUsable, EnumType.isEnclosed_of_head (h name hname).head?_ne]
    · simp only [List.forall_mem_append, List.forall_mem_cons]
      exact ⟨⟨hempty, hmro, fun _ h => nomatch h⟩, fun name hname => hfree name (by simp [hname])⟩
    · exact hfree name (by simp [hname])
    · have hname := List.mem_of_mem_tail hname
      have horder : name ≠ "_order_" ∧ name ≠ "__order__" :=
        ⟨fun he => hfree "_order_" (by simp) (he ▸ hname), fun he => hfree "__order__" (by simp) (he ▸ hname)⟩
      simpa [isOrder] using horder

end Words

end SolidityWire.Codec
