/-
Each byte string is the code of at most one value, and is what is written for it, unless a member in it belongs
to an enumeration that has a name in the place of the function which tells ordinals, or a tagged record in it has
a field in the place of the function which looks into records. Whatever is written can be read, unless no record of
a type can be made at all, or a view of items wider than a byte is written as a byte string.
-/
import SolidityWire.Proofs.Codec.AnyValue
import SolidityWire.Proofs.Codec.Decoding

namespace SolidityWire

open Codec GeneratedType

/-! ## Ordinals -/

/-- Every enumeration with members that can be read lets them tell their ordinals. -/
def Table.TellsOrdinals (t : Table) : Prop :=
  ∀ key names enum n name, .simpleEnum key names ∈ t.shapes → EnumType.ofNames (Text.asciiName key) names = .ok enum →
    enum.member? n = some name → n < 256 → enum.hasAttribute "__int__" = false

/-- Whatever has a code can be written: its members tell their ordinals, and its tagged records can be looked
into. -/
structure Table.Telling (t : Table) (k : Convention) : Prop where
  ordinals : t.TellsOrdinals
  records : ∀ key variants v e, .taggedEnum key variants ∈ t.shapes → Codes k t key v e →
    (taggedRecord key variants).isSealed = false

variable {t : Table} {k : Convention}

theorem Layout.telling {s : Shape} {v : Value} {front : List UInt8} {parts : List Part} (ht : t.TellsOrdinals)
    (hs : s ∈ t.shapes)
    (hopen : ∀ key variants, s = .taggedEnum key variants → (taggedRecord key variants).isSealed = false)
    (h : Layout k s v (.ok front) parts) : Layout k.telling s v (.ok front) parts := by
  cases s with
  | simpleEnum key names =>
    obtain ⟨enum, name, n, he, hk, hn, rfl, hf, rfl⟩ := layout_simpleEnum_iff.1 h
    have hlt := (Wire.encode_ordinal.1 hf.symm).1
    exact layout_simpleEnum_iff.2 ⟨enum, name, n, he, ⟨hk, ht key names enum n name hs he hn hlt⟩, hn, rfl, hf, rfl⟩
  | primitive p => exact layout_primitive_iff.2 ((layout_primitive_iff (k := k)).1 h)
  | reference name => exact (not_layout_reference h).elim
  | option child =>
    cases hb : isBoxed (.option child) with
    | false => exact (layout_option_iff hb).2 ((layout_option_iff hb).1 h)
    | true => exact (layout_box_iff hb).2 ((layout_box_iff hb).1 h)
  | sequence child => exact layout_sequence_iff.2 ((layout_sequence_iff (k := k)).1 h)
  | array child size => exact layout_array_iff.2 ((layout_array_iff (k := k)).1 h)
  | struct key fields => exact layout_struct_iff.2 ((layout_struct_iff (k := k)).1 h)
  | taggedEnum key variants =>
    obtain ⟨n, x, ho, hk, hn, rfl, hf, rfl⟩ := layout_taggedEnum_iff.1 h
    exact layout_taggedEnum_iff.2 ⟨n, x, ho, ⟨hk, hopen key variants rfl⟩, hn, rfl, hf, rfl⟩

theorem Codes.telling (ht : t.Telling k) {key : String} {v : Value} {e : List UInt8} (h : Codes k t key v e) :
    Codes k.telling t key v e := by
  refine Codes.induct (motive := fun key v e => Codes k.telling t key v e) (fun hs hl hr => ?_) h
  obtain ⟨hmem, rfl⟩ := Table.mem_of_get? hs
  have hcode := Codes.mk hs hl (hr.imp fun _ _ _ h => h.1)
  refine .mk hs (hl.telling ht.ordinals hmem fun key variants he => ?_) (hr.imp fun _ _ _ h => h.2)
  subst he
  exact ht.records key variants _ _ hmem hcode

section Members

variable {key name : String} {names : List String} {enum : EnumType} {n : Nat}

/-- A member has its ordinal as its code. -/
theorem codes_member (hs : t.get? key = some (.simpleEnum key names))
    (he : EnumType.ofNames (Text.asciiName key) names = .ok enum) (hn : enum.member? n = some name) (hlt : n < 256) :
    Codes .read t key (.member key name n) [n.toUInt8] := by
  have hf : Wire.encode (.integer false .w8) (.integer n) = .ok [n.toUInt8] := Wire.encode_ordinal.2 ⟨hlt, rfl⟩
  exact (codes_iff hs).2 (.leaf (layout_simpleEnum_iff.2 ⟨enum, name, n, he, trivial, hn, rfl, hf.symm, rfl⟩))

theorem tellsOrdinal_of_typed (hs : t.get? key = some (.simpleEnum key names))
    (he : EnumType.ofNames (Text.asciiName key) names = .ok enum) (h : Typed k.telling t key (.member key name n)) :
    enum.hasAttribute "__int__" = false := by
  obtain ⟨_, _, hl, -⟩ := (typed_iff hs).1 h
  obtain ⟨enum', _, _, he', ⟨-, htells⟩, -⟩ := layout_simpleEnum_iff.1 hl
  cases he.symm.trans he'
  exact htells

end Members

namespace Codec

/-! ## Views of wide items -/

/-- A view of one item in two bytes. -/
def wideView : Value :=
  .view [.integer 1] [1, 0]

/-- Numbers and operations, and a number alone in a view or a tuple. -/
inductive IsSmall : Value → Prop
  | boolean (b : Bool) : IsSmall (.boolean b)
  | integer (n : Int) : IsSmall (.integer n)
  | operation : IsSmall Value.operation
  | empty : IsSmall (.tuple [])
  | tuple (n : Int) : IsSmall (.tuple [.integer n])
  | view (n : Int) (data : List UInt8) : IsSmall (.view [.integer n] data)

theorem isSmall_of_operationOf {names : List String} {name : String} {y : Value}
    (h : Value.operationOf names name = some y) : IsSmall y := by
  unfold Value.operationOf at h
  split at h
  · cases h; exact .operation
  · cases h

theorem isSmall_of_wholeField? {n : Int} {name : String} {y : Value} (h : Value.wholeField? n name = some y) :
    IsSmall y := by
  unfold Value.wholeField? at h
  split at h
  case h_1 | h_2 | h_3 | h_4 => cases h; exact .integer _
  case h_5 => exact isSmall_of_operationOf h

theorem isSmall_of_viewField? {n : Int} {data : List UInt8} {name : String} {y : Value}
    (h : Value.viewField? [.integer n] data name = some y) : IsSmall y := by
  unfold Value.viewField? at h
  split at h
  case h_1 | h_2 => cases h; exact .integer _
  case h_3 => cases h; exact .tuple _
  case h_4 => cases h; exact .empty
  case h_5 | h_6 | h_7 => cases h; exact .boolean _
  case h_8 => exact isSmall_of_operationOf h

theorem IsSmall.field {c : Codec} {x y : Value} {name : String} (hx : IsSmall x) (h : c.getField x name = .ok y) :
    IsSmall y := by
  have hf : x.field? name = some y := by
    obtain ⟨_, _, _, rfl, -⟩ | hf := field_of_getField h
    · cases hx
    · exact hf
  cases hx with
  | boolean b => exact isSmall_of_wholeField? hf
  | integer n => exact isSmall_of_wholeField? hf
  | view n data => exact isSmall_of_viewField? hf
  | operation | empty | tuple => cases hf

theorem IsSmall.item {x y : Value} {items : List Value} (hx : IsSmall x) (hi : x.items? = some items) (hy : y ∈ items) :
    IsSmall y := by
  cases hx with
  | boolean | integer | operation => cases hi
  | empty => cases hi; cases hy
  | tuple n | view n data => cases hi; exact List.mem_singleton.1 hy ▸ .integer n

theorem IsSmall.extent_le {x : Value} (hx : IsSmall x) : x.extent ≤ 1 := by
  cases hx with
  | boolean | integer | operation | empty => exact Nat.zero_le 1
  | tuple | view => exact Nat.le_refl 1

theorem bounded_wideView (c : Codec) : c.Bounded wideView := by
  have hsmall : c.Throughout IsSmall wideView :=
    throughout_of_closed (fun _ _ _ hx h => hx.field h) (fun _ _ _ hx hi hy => hx.item hi hy) (.view 1 [1, 0])
  intro y hy
  have hle := (hsmall y hy).extent_le
  exact Nat.lt_of_le_of_lt hle (by decide)

theorem encode_wideView : Wire.encode .bytes wideView = .ok [1, 1, 0] := by
  change Except.ok (Length.encode 1 ++ [1, 0]) = _
  rw [Length.encode_of_lt (by decide)]
  rfl

/-- What is written for the view cannot be the code of a byte string. -/
theorem ne_encode_bytes (data : List UInt8) : Length.encode data.length ++ data ≠ [1, 1, 0] := by
  intro h
  have hlength := congrArg List.length h
  by_cases hlt : data.length < 128
  · rw [Length.encode_of_lt hlt] at h hlength
    simp only [List.length_append, List.length_cons, List.length_nil] at hlength
    have hn : data.length = 2 := by omega
    rw [hn] at h
    cases h
  · simp only [List.length_append, List.length_cons, List.length_nil] at hlength
    omega

/-! ## What is accepted and what is written -/

/-- All that is written for values of the kind can be read, and is written again for what is read. -/
def Rereads (c : Codec) (P : Value → Prop) : Prop :=
  ∀ key x e, P x → c.encode key x = .ok e → ∃ v, c.decode key e = .ok v ∧ c.encode key v = .ok e

section Written

variable {c : Codec} (hs : c.Sound) (ht : c.table.Definite)

include hs ht

/-- Where all that is read is written as it was read, all that has a code can be written. -/
theorem telling_of_rewritten
    (h : ∀ key offset bytes v cur, c.decodeAt key offset bytes = .ok (v, cur) →
      c.encode key v = .ok ((bytes.take cur.position).drop offset.toNat)) : c.table.Telling .read := by
  -- the code of a value is read as the value, which has to be written then
  have htyped : ∀ {key v e}, Codes .read c.table key v e → Typed Convention.read.telling c.table key v := fun he => by
    have hdec := (decodeAt_eq_ok hs).2 ⟨[], _, [], rfl, rfl, he, rfl⟩
    have hwritten := h _ _ _ _ _ hdec
    simp only [List.nil_append, List.append_nil, List.length_nil, Nat.zero_add, List.take_length] at hwritten
    exact (encode_eq_ok_iff_typed hs ht he).1 hwritten
  refine ⟨fun key names enum n name hmem he hn hlt => ?_, fun key variants v e hmem he => ?_⟩
  · have hget : c.table.get? key = some (.simpleEnum key names) := Table.get?_eq_some_iff.2 ⟨hmem, rfl⟩
    exact tellsOrdinal_of_typed hget he (htyped (codes_member hget he hn hlt))
  · have hget : c.table.get? key = some (.taggedEnum key variants) := Table.get?_eq_some_iff.2 ⟨hmem, rfl⟩
    obtain ⟨_, _, hl, -⟩ := (typed_iff hget).1 (htyped he)
    exact hl.isOpen.2

/-- What is read and written again is of open types. -/
theorem unobstructed_of_rereads {P : Value → Prop} (h : c.Rereads P) : c.Unobstructed P := by
  intro key s x e hget hx he
  obtain ⟨v, hv, he⟩ := h key x e hx he
  have htyped := (encode_eq_ok_iff_typed hs ht ((decode_eq_ok hs).1 hv)).1 he
  obtain ⟨_, _, hl, -⟩ := (typed_iff hget).1 htyped
  exact hl.isOpen

theorem rereads_of_unobstructed {Q : Value → Prop} (hQ : ∀ y, Q y → Wire.isLength y.extent)
    (hflat : .primitive .bytes ∈ c.table.shapes → ∀ y, Q y → y.IsFlat) (hu : c.Unobstructed (c.Throughout Q)) :
    c.Rereads (c.Throughout Q) := by
  intro key x e hx he
  obtain ⟨v, hv⟩ := exists_codes_of_encode hs hQ hflat hu hx he
  exact ⟨v, (decode_eq_ok hs).2 (hv.mono Convention.read.telling_le), encode_of_codes hs ht hv⟩

theorem rereads_measured_iff : c.Rereads c.Measured ↔ c.Unobstructed c.Measured :=
  ⟨unobstructed_of_rereads hs ht, rereads_of_unobstructed hs ht (fun _ h => h.1) fun _ _ h => h.2⟩

/-- A view of wide items is written as a byte string that cannot be read. -/
theorem rereads_bounded_iff :
    c.Rereads c.Bounded ↔ c.Unobstructed c.Bounded ∧ .primitive .bytes ∉ c.table.shapes := by
  constructor
  · refine fun h => ⟨unobstructed_of_rereads hs ht h, fun hmem => ?_⟩
    have hget : c.table.get? (Shape.primitive .bytes).key = some (.primitive .bytes) :=
      Table.get?_eq_some_iff.2 ⟨hmem, rfl⟩
    have hwritten : c.encode (Shape.primitive .bytes).key wideView = .ok [1, 1, 0] := by
      obtain ⟨depth, hdepth⟩ := Nat.exists_eq_succ_of_ne_zero (Nat.ne_zero_of_lt (hs.rank_lt_depth hget))
      refine (encode_eq_ok hs).2 ⟨Table.mem_keys_iff.2 ⟨_, hget⟩, _, hs.function hget, ?_⟩
      simp only [hdepth, encodeShape, encodePrimitive, encode_wideView, mapError_ok]
    obtain ⟨v, hv, -⟩ := h _ _ _ (bounded_wideView c) hwritten
    obtain ⟨front, parts, body, hl, hr, he⟩ := (codes_iff hget).1 ((decode_eq_ok hs).1 hv)
    obtain ⟨htyped, hfront, rfl⟩ := layout_primitive_iff.1 hl
    rw [row_nil_iff.1 hr, List.append_nil] at he
    cases htyped with
    | bytes data _ =>
      subst he
      exact ne_encode_bytes data (Except.ok.inj (hfront.trans (Wire.encode_bytes data))).symm
  · rintro ⟨hu, hbytes⟩
    exact rereads_of_unobstructed hs ht (fun _ h => h) (fun hmem => absurd hmem hbytes) hu

end Written

/-- What is read is written as the bytes that were read exactly if its members tell their ordinals and its tagged
records can be looked into; all that is written can be read, and is written again, exactly if no record that is
written is of a type that can make none or hides its fields, and, where values may be views of wide items, if
there are no byte strings in the table; and no value is read from two byte strings. -/
theorem encode_decodeAt {r : Registry} {edition : Edition} {c : Codec} (hc : ofRegistry r edition = .ok c)
    (hr : r.IsNamed) (hd : r.Declares) :
    (∀ key offset bytes v cur, c.decodeAt key offset bytes = .ok (v, cur) →
      (c.encode key v = .ok ((bytes.take cur.position).drop offset.toNat) ↔
        Typed Convention.read.telling c.table key v)) ∧
      ((∀ key offset bytes v cur, c.decodeAt key offset bytes = .ok (v, cur) →
        c.encode key v = .ok ((bytes.take cur.position).drop offset.toNat)) ↔ c.table.Telling .read) ∧
      (c.Rereads c.Measured ↔ c.Unobstructed c.Measured) ∧
      (c.Rereads c.Bounded ↔ c.Unobstructed c.Bounded ∧ .primitive .bytes ∉ c.table.shapes) ∧
      ∀ key bytes bytes' v, c.decode key bytes = .ok v → c.decode key bytes' = .ok v → bytes = bytes' := by
  obtain ⟨hl, hs⟩ := sound_of_ofRegistry hc hr
  have ht := hl.definite hd
  have read : ∀ {key offset bytes v cur}, c.decodeAt key offset bytes = .ok (v, cur) →
      Codes .read c.table key v ((bytes.take cur.position).drop offset.toNat) := fun h => by
    obtain ⟨before, e, after, rfl, rfl, he, rfl⟩ := (decodeAt_eq_ok hs).1 h
    rwa [← List.length_append, List.take_left, Int.toNat_natCast, List.drop_left]
  refine ⟨fun key offset bytes v cur h => encode_eq_ok_iff_typed hs ht (read h),
    ⟨fun h => ?_, fun htells key offset bytes v cur h => ?_⟩, rereads_measured_iff hs ht, rereads_bounded_iff hs ht,
    fun key bytes bytes' v h h' => ?_⟩
  · exact telling_of_rewritten hs ht h
  · exact encode_of_codes hs ht ((read h).telling htells)
  · exact ((decode_eq_ok hs).1 h).functional ht _ ((decode_eq_ok hs).1 h')

/-! ## A variant in the place of a function -/

/-- Two enumerations; one has a variant that is called like the function which tells ordinals. -/
def intVariant : Registry :=
  [("E", .enum [⟨0, "__int__", .unit⟩, ⟨1, "A", .unit⟩]), ("O", .enum [⟨0, "A", .unit⟩])]

/-- Its codec. -/
def intVariantCodec : Codec where
  table :=
    { shapes := [.simpleEnum "E" ["__int__", "A"], .simpleEnum "O" ["A"]]
      keys_nodup := by decide
      not_reference := by decide }
  functions := [("O", .simpleEnum "O" ["A"]), ("E", .simpleEnum "E" ["__int__", "A"])]

theorem ofRegistry_intVariant : ofRegistry intVariant = .ok intVariantCodec :=
  ofRegistry_eq_ok (by decide +kernel)

theorem isNamed_intVariant : intVariant.IsNamed :=
  Registry.isNamed_of_all (by decide)

theorem declares_intVariant : intVariant.Declares :=
  Registry.declares_of_all (by decide)

theorem ofNames_intVariant :
    EnumType.ofNames (Text.asciiName "E") ["__int__", "A"] = .ok ⟨[("A", 1)], [("__int__", 0)], 0⟩ :=
  toOption_eq_some.1 (by decide +kernel)

theorem encode_intVariant_ne : intVariantCodec.encode "E" (.member "E" "A" 1) ≠ .ok [1] := by
  have hnone : (intVariantCodec.encode "E" (.member "E" "A" 1)).toOption = none := by decide +kernel
  intro h
  rw [h] at hnone
  cases hnone

theorem decodeAt_intVariant {key name : String} {names : List String} {enum : EnumType} {n : Nat}
    (hs : intVariantCodec.table.get? key = some (.simpleEnum key names))
    (ht : EnumType.ofNames (Text.asciiName key) names = .ok enum) (hn : enum.member? n = some name) (hlt : n < 256) :
    intVariantCodec.decodeAt key 0 [n.toUInt8] = .ok (.member key name n, ⟨1, []⟩) :=
  (decodeAt_eq_ok (sound_of_ofRegistry ofRegistry_intVariant isNamed_intVariant).2).2
    ⟨[], _, [], rfl, rfl, codes_member hs ht hn hlt, rfl⟩

/-- The member of the other enumeration is written as it was read. -/
theorem encode_decodeAt_plainMember :
    intVariantCodec.decodeAt "O" 0 [0] = .ok (.member "O" "A" 0, ⟨1, []⟩) ∧
      intVariantCodec.encode "O" (.member "O" "A" 0) = .ok [0] := by
  have ht : EnumType.ofNames (Text.asciiName "O") ["A"] = .ok ⟨[("A", 0)], [], 0⟩ := rfl
  have hdec := decodeAt_intVariant (n := 0) (by decide) ht rfl (by decide)
  refine ⟨hdec, ((encode_decodeAt ofRegistry_intVariant isNamed_intVariant declares_intVariant).1 _ _ _ _ _ hdec).2 ?_⟩
  exact .mk (s := .simpleEnum "O" ["A"]) (by decide) (.simpleEnum ht ⟨trivial, rfl⟩ rfl) fun _ h => nomatch h

/-- A member of the one is read, but not written. -/
theorem encode_decodeAt_intVariant : ofRegistry intVariant = .ok intVariantCodec ∧ intVariant.IsNamed ∧
    intVariant.Declares ∧ intVariantCodec.decodeAt "E" 0 [1] = .ok (.member "E" "A" 1, ⟨1, []⟩) ∧
    intVariantCodec.encode "E" (.member "E" "A" 1) ≠ .ok [1] := by
  refine ⟨ofRegistry_intVariant, isNamed_intVariant, declares_intVariant, ?_, encode_intVariant_ne⟩
  exact decodeAt_intVariant (n := 1) (by decide) ofNames_intVariant rfl (by decide)

end Codec

end SolidityWire
