/-
The members of enumerations that are in a value, at any depth. What can be got from a value by taking fields and
items has no other members, and what is made of the types of a codec has only members of its enumerations.
-/
import SolidityWire.Codec.Encode
import SolidityWire.Proofs.Codec.Layout
import SolidityWire.Proofs.Codec.Sound

namespace SolidityWire

open Codec GeneratedType

/-! ## Members in a value -/

namespace Value

mutual

/-- The keys of the enumerations of which members are in the value, at any depth. -/
def enumKeys : Value → List String
  | member key _ _ => [key]
  | list items => allEnumKeys items
  | tuple items => allEnumKeys items
  | set items => allEnumKeys items
  | dict entries => entryEnumKeys entries
  | view items _ => allEnumKeys items
  | record _ fields _ => fieldEnumKeys fields
  | labelled _ content => content.enumKeys
  | _ => []
termination_by structural v => v

/-- The keys of enumerations in several values. -/
def allEnumKeys : List Value → List String
  | [] => []
  | v :: vs => v.enumKeys ++ allEnumKeys vs
termination_by structural vs => vs

/-- The keys of enumerations in the entries of a mapping. -/
def entryEnumKeys : List (Value × Value) → List String
  | [] => []
  | (key, v) :: rest => key.enumKeys ++ v.enumKeys ++ entryEnumKeys rest
termination_by structural entries => entries

/-- The keys of enumerations in the fields of a record. -/
def fieldEnumKeys : List (String × Value) → List String
  | [] => []
  | (_, v) :: rest => v.enumKeys ++ fieldEnumKeys rest
termination_by structural fields => fields

end

theorem allEnumKeys_subset_iff {keys : List String} : ∀ {items : List Value},
    allEnumKeys items ⊆ keys ↔ ∀ x ∈ items, x.enumKeys ⊆ keys
  | [] => ⟨fun _ _ h => (nomatch h), fun _ => List.nil_subset _⟩
  | x :: rest => by
    rw [allEnumKeys, List.append_subset, allEnumKeys_subset_iff, List.forall_mem_cons]

theorem enumKeys_of_entry : ∀ {entries : List (Value × Value)} {x : Value}, x ∈ entries.map Prod.fst →
    x.enumKeys ⊆ entryEnumKeys entries
  | (_, _) :: _, _, h => by
    rw [entryEnumKeys, List.append_assoc]
    rcases List.mem_cons.1 h with rfl | h
    · exact List.subset_append_left ..
    · exact List.subset_append_of_subset_right _ (List.subset_append_of_subset_right _ (enumKeys_of_entry h))

theorem fieldEnumKeys_subset_iff {keys : List String} : ∀ {fields : List (String × Value)},
    fieldEnumKeys fields ⊆ keys ↔ ∀ p ∈ fields, p.2.enumKeys ⊆ keys
  | [] => ⟨fun _ _ h => (nomatch h), fun _ => List.nil_subset _⟩
  | (_, v) :: rest => by
    rw [fieldEnumKeys, List.append_subset, fieldEnumKeys_subset_iff, List.forall_mem_cons]

/-- An operation is no member. -/
theorem enumKeys_of_operationOf {names : List String} {name : String} {x : Value}
    (h : operationOf names name = some x) : x.enumKeys = [] := by
  unfold operationOf at h
  split at h
  · cases h; rfl
  · cases h

theorem enumKeys_of_wholeField? {n : Int} {name : String} {x : Value} (h : wholeField? n name = some x) :
    x.enumKeys = [] := by
  unfold wholeField? at h
  split at h
  iterate 4 (cases h; rfl)
  exact enumKeys_of_operationOf h

theorem enumKeys_of_viewField? {items : List Value} {data : List UInt8} {name : String} {x : Value}
    (h : viewField? items data name = some x) : x.enumKeys = [] := by
  unfold viewField? at h
  split at h
  iterate 7 (cases h; rfl)
  exact enumKeys_of_operationOf h

/-- A field of a value has no members but those in the value. -/
theorem enumKeys_of_field? {v x : Value} {name : String} (h : v.field? name = some x) : x.enumKeys ⊆ v.enumKeys := by
  have nothing : x.enumKeys = [] → x.enumKeys ⊆ v.enumKeys := fun hx => by
    rw [hx]
    exact List.nil_subset _
  cases v with
  | record key fields =>
    obtain ⟨front, back, rfl, -⟩ := List.lookup_eq_some_iff.1 h
    exact fieldEnumKeys_subset_iff.1 (List.Subset.refl _) (name, x) (List.mem_append_right _ List.mem_cons_self)
  | member key memberName ordinal =>
    apply nothing
    simp only [field?] at h
    split at h
    · cases h; rfl
    · cases h; rfl
    · exact enumKeys_of_wholeField? h
  | boolean b => exact nothing (enumKeys_of_wholeField? h)
  | integer n => exact nothing (enumKeys_of_wholeField? h)
  | float y =>
    apply nothing
    simp only [field?] at h
    split at h
    · cases h; rfl
    · cases h; rfl
    · exact enumKeys_of_operationOf h
  | text _ | unpaired _ | bytes _ | byteArray _ | list _ | dict _ => exact nothing (enumKeys_of_operationOf h)
  | view items data => exact nothing (enumKeys_of_viewField? h)
  | _ => cases h

/-- An item of a value has no members but those in the value. -/
theorem enumKeys_of_items? {v : Value} {items : List Value} (h : v.items? = some items) :
    ∀ x ∈ items, x.enumKeys ⊆ v.enumKeys := by
  intro x hx
  cases v with
  | list _ | tuple _ | set _ | view _ _ =>
    cases h
    exact allEnumKeys_subset_iff.1 (List.Subset.refl _) x hx
  | dict _ =>
    cases h
    exact enumKeys_of_entry hx
  | text _ | bytes _ | byteArray _ =>
    cases h
    obtain ⟨_, -, rfl⟩ := List.mem_map.1 hx
    exact List.nil_subset _
  | unpaired _ =>
    cases h
    obtain ⟨c, -, rfl⟩ := List.mem_map.1 hx
    unfold ofChar
    split <;> exact List.nil_subset _
  | _ => cases h

end Value

/-! ## Fields and items -/

namespace Codec

/-- All members that are in the value are of enumerations of the codec. -/
def Knows (c : Codec) (v : Value) : Prop :=
  v.enumKeys ⊆ c.table.keys

theorem items?_of_getItems {v : Value} {items : List Value} (h : getItems v = .ok items) : v.items? = some items := by
  unfold getItems at h
  split at h
  · rename_i items' he
    cases h
    exact he
  · cases h

theorem Knows.item {c : Codec} {v : Value} (hv : c.Knows v) {items : List Value} (hi : getItems v = .ok items) :
    ∀ x ∈ items, c.Knows x :=
  fun x hx => List.Subset.trans (Value.enumKeys_of_items? (items?_of_getItems hi) x hx) hv

/-- The fields of a member depend on its enumeration, those of other values on nothing else. -/
theorem field_of_getField {c : Codec} {v x : Value} {name : String} (h : getField c v name = .ok x) :
    (∃ key memberName ordinal, v = .member key memberName ordinal ∧
      memberField? ((c.enumOf? key).getD {}) key memberName ordinal name = some x) ∨ v.field? name = some x := by
  unfold getField fieldOf at h
  rw [mapError_eq_ok, ite_error_eq_ok] at h
  obtain ⟨-, h⟩ := h
  split at h
  case h_2 => cases h
  rename_i hfound
  cases h
  cases v with
  | member key memberName ordinal => exact .inl ⟨key, memberName, ordinal, rfl, hfound⟩
  | _ => exact .inr hfound

/-- The fields of a member are its own name and numbers, members of its enumeration, and what numbers have. -/
theorem enumKeys_of_memberField? {t : EnumType} {key memberName name : String} {ordinal : Nat} {x : Value}
    (h : memberField? t key memberName ordinal name = some x) : x.enumKeys ⊆ [key] := by
  unfold memberField? at h
  split at h
  iterate 5 (cases h; exact List.nil_subset _)
  split at h
  · cases h
    exact List.Subset.refl _
  · cases h
    exact List.nil_subset _
  · exact Value.enumKeys_of_field? h

theorem Knows.field {c : Codec} {v : Value} (hv : c.Knows v) {name : String} {x : Value}
    (hx : getField c v name = .ok x) : c.Knows x := by
  refine List.Subset.trans ?_ hv
  obtain ⟨key, memberName, ordinal, rfl, hfound⟩ | hfound := field_of_getField hx
  · exact enumKeys_of_memberField? hfound
  · exact Value.enumKeys_of_field? hfound

/-! ## Values that are made -/

/-- The attributes of a type are no members. -/
theorem enumKeys_of_typeAttribute? {typeName name : String} {v : Value} (h : typeAttribute? typeName name = some v) :
    v.enumKeys = [] := by
  unfold typeAttribute? at h
  split at h <;> cases h <;> rfl

theorem enumKeys_of_attribute? {key name : String} {v : Value} (h : attribute? key name = some v) :
    v.enumKeys = [] := by
  unfold attribute? at h
  cases ht : typeAttribute? (Text.asciiName key) name with
  | some w =>
    simp only [ht] at h
    cases h
    exact enumKeys_of_typeAttribute? ht
  | none =>
    simp only [ht] at h
    repeat' split at h
    all_goals cases h <;> rfl

/-- What a field of a generated record holds where nothing is given is no member. -/
theorem enumKeys_of_default? {s : Shape} {t : RecordType} (h : ofShape? s = some (.ok (.record t))) :
    ∀ field ∈ t.fields, ∀ v ∈ field.default?, v.enumKeys = [] := by
  -- the type is made of fields that have no members in them
  have ofFields : ∀ {t' : RecordType}, ofRecord t' = .ok (.record t) →
      (∀ field ∈ t'.fields, ∀ v ∈ field.default?, v.enumKeys = []) →
      ∀ field ∈ t.fields, ∀ v ∈ field.default?, v.enumKeys = [] := fun ht hfields => by
    cases ofRecord_eq_ok ht
    exact hfields
  cases s with
  | struct key fields =>
    refine ofFields (Option.some.inj h) fun field hf v hv => ?_
    obtain ⟨f, -, rfl⟩ := List.mem_map.1 hf
    exact enumKeys_of_attribute? hv
  | taggedEnum key variants =>
    refine ofFields (Option.some.inj h) fun field hf v hv => ?_
    rcases List.mem_cons.1 hf with rfl | hf
    · cases hv
    · obtain ⟨name, -, rfl⟩ := List.mem_map.1 hf
      cases hv
      cases ht : typeAttribute? (Text.asciiName key) (fieldName name) with
      | some w => exact enumKeys_of_typeAttribute? ht
      | none => rfl
  | array child size =>
    refine ofFields (Option.some.inj h) fun field hf v hv => ?_
    cases List.mem_singleton.1 hf
    cases hv
  | option child =>
    simp only [ofShape?] at h
    split at h
    · refine ofFields (Option.some.inj h) fun field hf v hv => ?_
      rcases List.mem_cons.1 hf with rfl | hf
      · cases hv
      · cases List.mem_singleton.1 hf
        cases hv
        rfl
    · cases h
  | simpleEnum key names =>
    simp only [ofShape?] at h
    cases he : EnumType.ofNames (Text.asciiName key) names with
    | ok t' => rw [he] at h; cases h
    | error m => rw [he] at h; cases h
  | primitive _ | reference _ | sequence _ => cases h

/-- A record has no members but those that are given. -/
theorem enumKeys_of_fill {keys : List String} {given : List (String × Value)}
    (hgiven : ∀ p ∈ given, p.2.enumKeys ⊆ keys) : ∀ {fields : List RecordField} {entries : List (String × Value)},
      (∀ field ∈ fields, ∀ v ∈ field.default?, v.enumKeys = []) → RecordType.fill given fields = .ok entries →
      ∀ p ∈ entries, p.2.enumKeys ⊆ keys
  | [], _, _, h => by
    cases h
    exact fun _ hp => nomatch hp
  | field :: rest, _, hdefault, h => by
    have ih := fun entries he => @enumKeys_of_fill keys given hgiven rest entries
      (fun f hf => hdefault f (List.mem_cons_of_mem _ hf)) he
    rw [RecordType.fill] at h
    split at h
    · rename_i v hv
      obtain ⟨entries, he, h⟩ := bind_eq_ok.1 h
      cases h
      obtain ⟨front, back, rfl, -⟩ := List.lookup_eq_some_iff.1 hv
      exact List.forall_mem_cons.2 ⟨hgiven _ (List.mem_append_right _ List.mem_cons_self), ih entries he⟩
    · rename_i v _ hv
      obtain ⟨entries, he, h⟩ := bind_eq_ok.1 h
      cases h
      refine List.forall_mem_cons.2 ⟨?_, ih entries he⟩
      rw [hdefault field List.mem_cons_self v hv]
      exact List.nil_subset _
    · cases h

/-- A member that is made is one of the enumeration under the key. -/
theorem knows_of_newMember {c : Codec} {key : String} {x v : Value} (hkey : key ∈ c.table.keys)
    (h : c.newMember key x = .ok v) : c.Knows v := by
  obtain ⟨t, -, h⟩ := bind_eq_ok.1 h
  cases t with
  | record _ => cases h
  | enum t =>
    obtain ⟨m?, hfind, h⟩ := bind_eq_ok.1 h
    obtain ⟨-, hm⟩ := ite_error_eq_ok.1 hfind
    cases Except.ok.inj hm
    split at h
    · rename_i m hm
      cases h
      obtain ⟨⟨name, n⟩, -, rfl⟩ := Option.map_eq_some_iff.1 hm
      exact List.forall_mem_singleton.2 hkey
    · cases h

/-- What is made of the types of a codec has no members but of its enumerations. -/
theorem knows_of_newRecord {c : Codec} {key : String} {given : List (String × Value)} {v : Value}
    (h : c.newRecord key given = .ok v) (hgiven : ∀ p ∈ given, c.Knows p.2) : c.Knows v := by
  obtain ⟨t, ht, h⟩ := bind_eq_ok.1 h
  obtain ⟨s, hs, hshape⟩ := typeOf_eq_ok.1 ht
  cases t with
  | record t =>
    rw [mapError_eq_ok] at h
    unfold RecordType.make at h
    split at h
    · obtain ⟨entries, he, h⟩ := bind_eq_ok.1 h
      split at h
      · cases h
      · cases h
        exact Value.fieldEnumKeys_subset_iff.2 (enumKeys_of_fill hgiven (enumKeys_of_default? hshape) he)
    · cases h
  | enum t =>
    -- the type of an enumeration is called with the number of one of its members
    simp only at h
    split at h
    · exact knows_of_newMember (Table.mem_keys_iff.2 ⟨s, hs⟩) h
    · cases h

/-! ## Values of shapes -/

variable {c : Codec} {k : Convention}

theorem knows_of_enumKeys_eq_nil {v : Value} (h : v.enumKeys = []) : c.Knows v := by
  unfold Knows
  rw [h]
  exact List.nil_subset _

theorem knows_record {key : String} {entries : List (String × Value)} {shades : Bool}
    (h : ∀ p ∈ entries, c.Knows p.2) : c.Knows (.record key entries shades) :=
  Value.fieldEnumKeys_subset_iff.2 h

theorem knows_list {items : List Value} (h : ∀ x ∈ items, c.Knows x) : c.Knows (.list items) :=
  Value.allEnumKeys_subset_iff.2 h

/-- What is zipped to a list of the same length can be zipped to another one. -/
theorem forall_mem_zip_snd {α β : Type} {P : β → Prop} {as bs : List α} {xs : List β} (ha : xs.length = as.length)
    (h : ∀ p ∈ as.zip xs, P p.2) : ∀ p ∈ bs.zip xs, P p.2 := by
  intro p hp
  have hx : p.2 ∈ (as.zip xs).map Prod.snd := by
    rw [List.map_snd_zip ha.le]
    exact (List.of_mem_zip hp).2
  obtain ⟨q, hq, hqp⟩ := List.mem_map.1 hx
  exact hqp ▸ h q hq

/-- A layer adds no members to those of its parts, except one of an enumeration under the key itself. -/
theorem knows_of_layout (hk : ∀ key name, (k.absent key name).enumKeys = []) {s : Shape} (hs : s ∈ c.table.shapes)
    {v : Value} {front : Except EncodeError (List UInt8)} {parts : List Part} (hl : Layout k s v front parts)
    (hparts : ∀ p ∈ parts, c.Knows p.2) : c.Knows v := by
  cases hl with
  | primitive ht =>
    apply knows_of_enumKeys_eq_nil
    cases ht <;> rfl
  | absent _ => exact knows_of_enumKeys_eq_nil rfl
  | @present child _ _ => exact hparts (child.key, v) List.mem_cons_self
  | emptyBox _ => exact knows_of_enumKeys_eq_nil rfl
  | @box child x _ =>
    refine knows_record (List.forall_mem_cons.2 ⟨knows_of_enumKeys_eq_nil rfl, List.forall_mem_singleton.2 ?_⟩)
    exact hparts (child.key, x) List.mem_cons_self
  | @sequence child vs _ => exact knows_list fun x hx => hparts (child.key, x) (List.mem_map.2 ⟨x, hx, rfl⟩)
  | @array child size vs _ =>
    refine knows_record (List.forall_mem_singleton.2 (knows_list fun x hx => ?_))
    exact hparts (child.key, x) (List.mem_map.2 ⟨x, hx, rfl⟩)
  | @struct key fields vs _ hl =>
    refine knows_record (forall_mem_zip_snd ?_ hparts)
    rw [List.length_map, hl]
  | simpleEnum _ _ _ => exact List.forall_mem_singleton.2 (List.mem_map_of_mem hs)
  | @taggedEnum key variants n x _ _ _ =>
    refine knows_record (List.forall_mem_cons.2 ⟨knows_of_enumKeys_eq_nil rfl, fun p hp => ?_⟩)
    obtain ⟨field, -, rfl⟩ := List.mem_map.1 hp
    simp only
    split
    · rename_i hchosen
      obtain ⟨chosen, hch, -⟩ := Option.map_eq_some_iff.1 hchosen
      exact hparts (chosen.2.key, x) (List.mem_map.2 ⟨chosen, Option.mem_toList.2 hch, rfl⟩)
    · exact knows_of_enumKeys_eq_nil (hk _ _)

/-- A value of a shape has members of the codec's enumerations only. -/
theorem knows_of_typed (hk : ∀ key name, (k.absent key name).enumKeys = []) {key : String} {v : Value}
    (h : Typed k c.table key v) : c.Knows v := by
  induction h with
  | mk hs hl _ ih => exact knows_of_layout hk (Table.mem_of_get? hs).1 hl ih

end Codec

end SolidityWire
