/-
Decoding of bytes that nothing is known about. It gives a value, with the cursor between the offset and the
end, or refuses the bytes; only where the type of a shape cannot be used as it is meant does its last step
fail in another way, and then some bytes make it do so.
-/
import SolidityWire.Proofs.Codec.AnyValue
import SolidityWire.Proofs.Codec.Refusal
import SolidityWire.Proofs.Codec.RoundTrip
import SolidityWire.Proofs.Wire.Forward

namespace SolidityWire

open Codec GeneratedType Cursor

/-! ## Failures -/

/-- The bytes are refused. -/
def CodecError.IsRefusal : CodecError → Prop
  | .decode e => e.IsForward
  | _ => False

/-- Some bytes are the code of a value under the key. -/
def Table.Readable (t : Table) (key : String) : Prop :=
  ∃ v e, Codes .read t key v e

/-- The last step under the shape can be a misuse: no record can be made though there are bytes for all of its
parts, or no member has an ordinal and the type cannot say so. -/
def Codec.Trips (c : Codec) (m : Misuse) : Shape → Prop
  | .struct key fields =>
    (structRecord key fields).obstacle? = some m ∧ ∀ field ∈ fields, c.table.Readable field.2.key
  | .taggedEnum key variants => (taggedRecord key variants).obstacle? = some m ∧
      ∃ n, n < 2 ^ 64 ∧ n < variants.length ∧ ∀ chosen ∈ chosen? variants n, c.table.Readable chosen.2.key
  | .simpleEnum key names => m = .wrongType ∧ ∃ enum, EnumType.ofNames (Text.asciiName key) names = .ok enum ∧
      enum.isMute c.edition = true ∧ ∃ n, n < 256 ∧ enum.member? n = none
  | _ => False

namespace Table

variable {t : Table}

theorem forall_readable_iff : ∀ {keys : List String}, (∀ key ∈ keys, t.Readable key) ↔ ∃ vs e,
    vs.length = keys.length ∧ Row (fun p e => Codes .read t p.1 p.2 e) (keys.zip vs) e
  | [] => ⟨fun _ => ⟨[], [], rfl, .nil⟩, fun _ _ h => nomatch h⟩
  | key :: keys => by
    rw [List.forall_mem_cons, @forall_readable_iff keys]
    constructor
    · rintro ⟨⟨v, front, hv⟩, vs, back, hl, hr⟩
      exact ⟨v :: vs, front ++ back, congrArg Nat.succ hl, .cons hv hr⟩
    · rintro ⟨vs, e, hl, hr⟩
      cases vs with
      | nil => cases hl
      | cons v vs =>
        cases hr with
        | cons hv hr => exact ⟨⟨v, _, hv⟩, vs, _, Nat.succ.inj hl, hr⟩

theorem chosen_readable_iff {variants : Variants} {n : Nat} :
    (∀ chosen ∈ chosen? variants n, t.Readable chosen.2.key) ↔ ∃ v e,
      Row (fun p e => Codes .read t p.1 p.2 e) ((chosen? variants n).toList.map fun chosen => (chosen.2.key, v)) e := by
  cases chosen? variants n with
  | none => exact ⟨fun _ => ⟨.null, [], .nil⟩, fun _ _ h => nomatch h⟩
  | some chosen =>
    constructor
    · intro h
      obtain ⟨v, e, hv⟩ := h chosen rfl
      exact ⟨v, e, row_singleton_iff.2 hv⟩
    · rintro ⟨v, e, hr⟩ chosen' h
      cases h
      obtain ⟨e, he⟩ := hr.exists_of_mem _ List.mem_cons_self
      exact ⟨v, e, he⟩

end Table

namespace Codec

/-- The function fails only with some errors. -/
def FailsWith {α : Type} (P : CodecError → Prop) (decode : Cursor → Except CodecError (α × Cursor)) : Prop :=
  ∀ cur e, decode cur = .error e → P e

variable {c : Codec} {P : CodecError → Prop} {decode : Shape → Cursor → Decoded}

/-! ## Parts in a row -/

theorem read_failsWith {α : Type} {d : Decoder α} (hd : d.Forward) (hP : ∀ e, e.IsRefusal → P e) :
    FailsWith P (read d) := by
  intro cur e h
  unfold read at h
  split at h
  · cases h
  · rename_i e' cur' he
    cases h
    exact hP _ (hd _ _ _ he)

theorem decodeItems_failsWith {decode : Cursor → Decoded} (hd : FailsWith P decode) :
    ∀ {count : Nat} {done : List Value}, FailsWith P (decodeItems decode count done)
  | 0, _, _, _, h => nomatch h
  | count + 1, done, cur, e, h => by
    rw [decodeItems, bind_eq_error] at h
    rcases h with h | ⟨a, -, h⟩
    · exact hd _ _ h
    · exact decodeItems_failsWith hd _ _ h

/-- The key of the shape calls a function that fails only with some errors. -/
def CallFailsWith (c : Codec) (P : CodecError → Prop) (decode : Shape → Cursor → Decoded) (child : Shape) : Prop :=
  ∃ f, c.function child.key = .ok f ∧ FailsWith P (decode f)

theorem decodeFields_failsWith : ∀ {fields : List (String × Shape)},
    (∀ field ∈ fields, CallFailsWith c P decode field.2) → FailsWith P (decodeFields c decode fields)
  | [], _, _, _, h => nomatch h
  | (name, child) :: rest, hfields, cur, e, h => by
    obtain ⟨f, hf, hd⟩ := hfields _ List.mem_cons_self
    rw [decodeFields, hf, ok_bind, bind_eq_error] at h
    rcases h with h | ⟨a, -, h⟩
    · exact hd _ _ h
    · rcases bind_eq_error.1 h with h | ⟨b, -, h⟩
      · exact decodeFields_failsWith (fun field hfield => hfields field (List.mem_cons_of_mem _ hfield)) _ _ h
      · cases h

theorem decodePayload_failsWith {variants : Variants} {n : Nat}
    (h : ∀ chosen ∈ chosen? variants n, CallFailsWith c P decode chosen.2) :
    FailsWith P (decodePayload c decode variants n) := by
  intro cur e he
  rw [decodePayload_eq] at he
  split at he
  · rename_i chosen hch
    exact decodeFields_failsWith (List.forall_mem_singleton.2 (h chosen hch)) _ _ he
  · cases he

/-! ## Records and members -/

theorem decodedRecord_eq_error {t : RecordType} {key : String} {given : List (String × Value)} {r : Value}
    {cur : Cursor} {e : CodecError}
    (hm : t.make key given = match t.obstacle? with
      | some m => .error m
      | none => .ok r) :
    decodedRecord t key given cur = .error e ↔ ∃ m, t.obstacle? = some m ∧ e = .misuse m := by
  rw [decodedRecord, mapError_eq_error]
  simp only [map_eq_error, hm]
  cases t.obstacle? with
  | some m => simp [eq_comm]
  | none => simp

theorem decodedMember_eq_error {key : String} {names : List String} {t : EnumType} {ordinal : Nat} {cur : Cursor}
    {e : CodecError} (ht : EnumType.ofNames (Text.asciiName key) names = .ok t) :
    decodedMember c key names ordinal cur = .error e ↔ t.member? ordinal = none ∧
      e = if t.isMute c.edition then .misuse .wrongType
        else .decode (.notMember ordinal (Text.asciiName key)) := by
  unfold decodedMember
  rw [ht]
  simp only [mapError_ok, ok_bind]
  cases t.member? ordinal with
  | some name =>
    constructor
    · intro h; cases h
    · rintro ⟨h, -⟩; cases h
  | none =>
    constructor
    · intro h; cases h; exact ⟨rfl, rfl⟩
    · rintro ⟨-, rfl⟩; rfl

/-! ## One layer -/

/-- The key of the shape calls a function that reads the codes under the key and fails only with some errors,
as long as it may call others `depth` deep. -/
def ChildReads (c : Codec) (P : CodecError → Prop) (depth : Nat) (child : Shape) : Prop :=
  ∃ f, c.function child.key = .ok f ∧ ∀ depth', depth ≤ depth' →
    Accepts (decodeShape c depth' f) (Codes .read c.table child.key) ∧ FailsWith P (decodeShape c depth' f)

section Layer

variable {depth : Nat} {child : Shape}

theorem ChildReads.accepts (h : ChildReads c P depth child) :
    ChildAccepts c depth (fun p e => Codes .read c.table p.1 p.2 e) child := by
  obtain ⟨f, hf, h⟩ := h
  exact ⟨f, hf, fun depth' hd => (h depth' hd).1⟩

theorem ChildReads.call (h : ChildReads c P depth child) : CallFailsWith c P (decodeShape c (depth + 1)) child := by
  obtain ⟨f, hf, h⟩ := h
  exact ⟨f, hf, (h _ (Nat.le_succ depth)).2⟩

theorem ChildReads.item (h : ChildReads c P depth child) : FailsWith P (decodeItem c (depth + 1) child) := by
  obtain ⟨f, hf, h⟩ := h
  intro cur e he
  rw [decodeItem, hf] at he
  exact (h _ (Nat.le_refl depth)).2 cur e he

theorem decodeOption_failsWith (h : CallFailsWith c P (decodeShape c depth) child) (hP : ∀ e, e.IsRefusal → P e) :
    FailsWith P (decodeShape c (depth + 1) (.option child)) := by
  intro cur e he
  obtain ⟨f, hf, hfails⟩ := h
  rw [decodeShape, bind_eq_error] at he
  rcases he with he | ⟨⟨present, cur'⟩, -, he⟩
  · exact read_failsWith Wire.decodeBool_forward hP _ _ he
  cases present with
  | false => cases hb : isBoxed (.option child) <;> simp only [hb] at he <;> cases he
  | true =>
    simp only [if_true, hf, ok_bind] at he
    rcases bind_eq_error.1 he with he | ⟨a, -, he⟩
    · exact hfails _ _ he
    · cases hb : isBoxed (.option child) <;> simp only [hb] at he <;> cases he

/-- A struct trips behind bytes for all of its fields. -/
theorem decodeStruct_failsWith {key : String} {fields : List (String × Shape)} (hm : (Shape.struct key fields).Made)
    (h : ∀ field ∈ fields, ChildReads c P depth field.2) (hT : ∀ m, c.Trips m (.struct key fields) → P (.misuse m)) :
    FailsWith P (decodeShape c (depth + 2) (.struct key fields)) := by
  intro cur e he
  rw [decodeShape, bind_eq_error] at he
  rcases he with he | ⟨⟨entries, cur'⟩, hentries, he⟩
  · exact decodeFields_failsWith (fun field hf => (h field hf).call) _ _ he
  obtain ⟨e', ⟨vs, hl, rfl, hr⟩, -⟩ :=
    (decodeFields_accepts (fun field hf => (h field hf).accepts.call) _ _ _).1 hentries
  obtain ⟨m, ho, rfl⟩ := (decodedRecord_eq_error (make_structRecord hm hl)).1 he
  have hreadable := Table.forall_readable_iff.2 ⟨vs, e', by rw [hl, List.length_map], hr⟩
  exact hT m ⟨ho, List.forall_mem_map.1 hreadable⟩

theorem decodeSimpleEnum_failsWith {key : String} {names : List String} (hm : (Shape.simpleEnum key names).Made)
    (hP : ∀ e, e.IsRefusal → P e) (hT : ∀ m, c.Trips m (.simpleEnum key names) → P (.misuse m)) :
    FailsWith P (decodeShape c (depth + 1) (.simpleEnum key names)) := by
  intro cur e he
  rw [decodeShape, bind_eq_error] at he
  rcases he with he | ⟨⟨ordinal, cur'⟩, hordinal, he⟩
  · exact read_failsWith (Integer.decode_forward _ _) hP _ _ he
  obtain ⟨_, ⟨n, rfl, henc⟩, -⟩ := (decode_unsigned_accepts .w8 rfl _ _ _).1 hordinal
  obtain ⟨hn, -⟩ := Wire.encode_ordinal.1 henc
  obtain ⟨t, ht⟩ := hm.simpleEnum
  obtain ⟨hnone, rfl⟩ := (decodedMember_eq_error ht).1 he
  split
  · rename_i ha
    exact hT _ ⟨rfl, t, ht, ha, n, hn, hnone⟩
  · exact hP _ trivial

/-- A tagged enumeration refuses a number that chooses no variant, and trips behind bytes for what a variant
carries. -/
theorem decodeTaggedEnum_failsWith {key : String} {variants : Variants} (hm : (Shape.taggedEnum key variants).Made)
    (hkey : Text.IsName key) (h : ∀ n, ∀ chosen ∈ chosen? variants n, ChildReads c P depth chosen.2)
    (hP : ∀ e, e.IsRefusal → P e) (hT : ∀ m, c.Trips m (.taggedEnum key variants) → P (.misuse m)) :
    FailsWith P (decodeShape c (depth + 2) (.taggedEnum key variants)) := by
  intro cur e he
  rw [decodeShape, bind_eq_error] at he
  rcases he with he | ⟨⟨choice, cur'⟩, hchoice, he⟩
  · exact read_failsWith (Integer.decode_forward _ _) hP _ _ he
  obtain ⟨_, ⟨n, rfl, henc⟩, -⟩ := (decode_unsigned_accepts .w64 rfl _ _ _).1 hchoice
  obtain ⟨hn, -⟩ := Wire.encode_choice.1 henc
  simp only [Int.toNat_natCast] at he
  split at he
  · cases he
    -- the words of the refusal are a formula over the key, which a name does not disturb
    rw [decodeRefusal_of_isLiteral c (Refusal.isLiteral_of_isName hkey) hn]
    exact hP _ trivial
  rename_i hlt
  rcases bind_eq_error.1 he with he | ⟨⟨entries, cur''⟩, hentries, he⟩
  · exact decodePayload_failsWith (fun chosen hch => (h n chosen hch).call) _ _ he
  obtain ⟨e', ⟨x, rfl, hr⟩, -⟩ :=
    (decodePayload_accepts (fun chosen hch => (h n chosen hch).accepts.call) _ _ _).1 hentries
  obtain ⟨m, ho, rfl⟩ := (decodedRecord_eq_error (make_taggedRecord hm n x)).1 he
  exact hT m ⟨ho, n, hn, Nat.lt_of_not_le hlt, Table.chosen_readable_iff.2 ⟨x, e', hr⟩⟩

/-- Each shape fails as its parts do, refuses what it reads itself, or trips over its own type. -/
theorem decodeShape_failsWith (hc : c.Sound) (hnames : ∀ s ∈ c.table.shapes, Text.IsName s.key) {s : Shape}
    (hs : s ∈ c.table.shapes) (h : ∀ child ∈ s.children, ChildReads c P depth child)
    (hP : ∀ e, e.IsRefusal → P e) (hT : ∀ m, c.Trips m s → P (.misuse m)) :
    FailsWith P (decodeShape c (depth + 2) s) := by
  cases s with
  | primitive p => exact read_failsWith (Wire.decode_forward p) hP
  | reference name => exact absurd (c.table.not_reference _ hs) Bool.noConfusion
  | option child => exact decodeOption_failsWith (h child List.mem_cons_self).call hP
  | sequence child =>
    intro cur e he
    rw [decodeShape, bind_eq_error] at he
    rcases he with he | ⟨⟨count, cur'⟩, -, he⟩
    · exact read_failsWith Length.decode_forward hP _ _ he
    rcases bind_eq_error.1 he with he | ⟨a, -, he⟩
    · exact decodeItems_failsWith (h child List.mem_cons_self).item _ _ he
    · cases he
  | array child size =>
    intro cur e he
    rw [decodeShape, bind_eq_error] at he
    rcases he with he | ⟨⟨items, cur'⟩, -, he⟩
    · exact decodeItems_failsWith (h child List.mem_cons_self).item _ _ he
    · cases he
  | struct key fields =>
    exact decodeStruct_failsWith (hc.made _ hs) (fun field hf => h field.2 (List.mem_map_of_mem hf)) hT
  | simpleEnum key names => exact decodeSimpleEnum_failsWith (hc.made _ hs) hP hT
  | taggedEnum key variants =>
    have hpayload : ∀ n, ∀ chosen ∈ chosen? variants n, ChildReads c P depth chosen.2 := fun n chosen hch =>
      h chosen.2 (List.mem_map_of_mem (f := Prod.snd) (mem_of_chosen? hch).2)
    exact decodeTaggedEnum_failsWith (hc.made _ hs) (hnames _ hs) hpayload hP hT

/-- A shape trips on bytes for all of its parts, or for an ordinal that no member has. -/
theorem exists_decodeShape_error (hc : c.Sound) {s : Shape} (hs : s ∈ c.table.shapes)
    (h : ∀ child ∈ s.children, ChildAccepts c depth (fun p e => Codes .read c.table p.1 p.2 e) child) {m : Misuse}
    (ht : c.Trips m s) : ∃ e, decodeShape c (depth + 2) s ⟨0, e⟩ = .error (.misuse m) := by
  cases s with
  | struct key fields =>
    obtain ⟨ho, hreadable⟩ := ht
    obtain ⟨vs, e, hl, hr⟩ := Table.forall_readable_iff.1 (List.forall_mem_map.2 hreadable)
    rw [List.length_map] at hl
    have hfields := decodeFields_accepts fun field hf => (h field.2 (List.mem_map_of_mem hf)).call
    have hentries := (hfields ⟨0, e ++ []⟩ _ _).2 ⟨e, ⟨vs, hl, rfl, hr⟩, past_mk⟩
    refine ⟨e ++ [], ?_⟩
    rw [decodeShape, hentries, ok_bind]
    exact (decodedRecord_eq_error (make_structRecord (hc.made _ hs) hl)).2 ⟨m, ho, rfl⟩
  | simpleEnum key names =>
    obtain ⟨rfl, t, henum, ha, n, hn, hnone⟩ := ht
    have hread : Accepts (read (Integer.decode false 1)) _ := decode_unsigned_accepts .w8 rfl
    have hordinal := (hread ⟨0, [n.toUInt8] ++ []⟩ n _).2 ⟨_, ⟨n, rfl, Wire.encode_ordinal.2 ⟨hn, rfl⟩⟩, past_mk⟩
    refine ⟨[n.toUInt8] ++ [], ?_⟩
    rw [decodeShape, hordinal, ok_bind]
    exact (decodedMember_eq_error henum).2 ⟨hnone, by rw [ha]; rfl⟩
  | taggedEnum key variants =>
    obtain ⟨ho, n, hn, hlt, hreadable⟩ := ht
    obtain ⟨x, e, hr⟩ := Table.chosen_readable_iff.1 hreadable
    have hread : Accepts (read (Integer.decode false 8)) _ := decode_unsigned_accepts .w64 rfl
    have hchoice := (hread ⟨0, Integer.toBytes 8 n ++ (e ++ [])⟩ n _).2
      ⟨_, ⟨n, rfl, Wire.encode_choice.2 ⟨hn, rfl⟩⟩, past_mk⟩
    have hpayload := decodePayload_accepts (n := n) fun chosen hch =>
      (h chosen.2 (List.mem_map_of_mem (f := Prod.snd) (mem_of_chosen? hch).2)).call
    have hentries := (hpayload ⟨0 + (Integer.toBytes 8 n).length, e ++ []⟩ _ _).2 ⟨e, ⟨x, rfl, hr⟩, past_mk⟩
    refine ⟨Integer.toBytes 8 n ++ (e ++ []), ?_⟩
    rw [decodeShape, hchoice, ok_bind]
    simp only [Int.toNat_natCast]
    rw [if_neg (Nat.not_le_of_lt hlt), hentries, ok_bind]
    exact (decodedRecord_eq_error (make_taggedRecord (hc.made _ hs) n x)).2 ⟨m, ho, rfl⟩
  | _ => exact ht.elim

end Layer

/-! ## All layers -/

/-- The bytes are refused, or a shape of the table trips. -/
def IsFailure (c : Codec) (e : CodecError) : Prop :=
  e.IsRefusal ∨ ∃ s ∈ c.table.shapes, ∃ m, c.Trips m s ∧ e = .misuse m

theorem decodeShape_isFailure (hc : c.Sound) (hnames : ∀ s ∈ c.table.shapes, Text.IsName s.key) {key : String}
    {s : Shape} {depth : Nat} (hs : c.table.get? key = some s) (hd : 2 * (c.table.rank key + 1) ≤ depth) :
    FailsWith (IsFailure c) (decodeShape c depth s) := by
  induction hn : c.table.rank key using Nat.strongRecOn generalizing key s depth with
  | ind n ih =>
    obtain ⟨depth, rfl⟩ : ∃ d, depth = d + 2 := ⟨depth - 2, by omega⟩
    obtain ⟨hmem, rfl⟩ := Table.mem_of_get? hs
    refine decodeShape_failsWith hc hnames hmem (fun child hchild => ?_) (fun _ => Or.inl)
      fun m hm => Or.inr ⟨s, hmem, m, hm, rfl⟩
    obtain ⟨f, hf, hcall, hr⟩ := hc.child hmem hchild
    exact ⟨f, hcall, fun depth' hd' => ⟨decodeShape_accepts_codes hc hf (by omega), ih _ (hn ▸ hr) hf (by omega) rfl⟩⟩

theorem decodeAt_isFailure (hc : c.Sound) (hnames : ∀ s ∈ c.table.shapes, Text.IsName s.key) {key : String}
    (hkey : key ∈ c.table.keys) {offset : Int} {bytes : List UInt8} {e : CodecError}
    (h : c.decodeAt key offset bytes = .error e) : IsFailure c e := by
  obtain ⟨s, hs⟩ := Table.mem_keys_iff.1 hkey
  rw [decodeAt, hc.entry_eq_ok.2 hs, ok_bind] at h
  rcases bind_eq_error.1 h with h | ⟨cur, -, h⟩
  · obtain ⟨e', he, rfl⟩ := mapError_eq_error.1 h
    exact Or.inl (Cursor.at?_forward he)
  · exact decodeShape_isFailure hc hnames hs (hc.rank_lt_depth hs) _ _ h

theorem exists_decodeAt_error (hc : c.Sound) {s : Shape} (hs : s ∈ c.table.shapes) {m : Misuse}
    (ht : c.Trips m s) : ∃ bytes, c.decodeAt s.key 0 bytes = .error (.misuse m) := by
  have hget : c.table.get? s.key = some s := Table.get?_eq_some_iff.2 ⟨hs, rfl⟩
  have hd := hc.rank_lt_depth hget
  obtain ⟨depth, hdepth⟩ : ∃ d, c.depth = d + 2 := ⟨c.depth - 2, by omega⟩
  have hchildren : ∀ child ∈ s.children, ChildAccepts c depth (fun p e => Codes .read c.table p.1 p.2 e) child :=
    fun child hchild => by
      obtain ⟨f, hf, hcall, hr⟩ := hc.child hs hchild
      exact ⟨f, hcall, fun depth' hd' => decodeShape_accepts_codes hc hf (by omega)⟩
  obtain ⟨bytes, he⟩ := exists_decodeShape_error hc hs hchildren ht
  refine ⟨bytes, ?_⟩
  have hat : Cursor.at? 0 bytes = .ok ⟨0, bytes⟩ := by
    rw [Cursor.at?, if_pos ⟨Int.le_refl 0, Int.natCast_nonneg _⟩]
    rfl
  rw [decodeAt, hc.entry_eq_ok.2 hget, ok_bind, hat, hdepth]
  exact he

theorem obstacle?_eq_some {t : RecordType} {m : Misuse} (h : t.obstacle? = some m) : m = .wrongType ∨ m = .noField := by
  unfold RecordType.obstacle? at h
  split at h
  · split at h
    · cases h; exact Or.inl rfl
    · cases h
  · obtain ⟨name, -, h⟩ := List.exists_of_findSome?_eq_some h
    unfold RecordType.obstacleOf at h
    split at h
    · cases h; exact Or.inl rfl
    · cases h; exact Or.inr rfl
    · cases h

theorem misuse_of_trips {m : Misuse} {s : Shape} (h : c.Trips m s) : m = .wrongType ∨ m = .noField := by
  cases s with
  | struct key fields => exact obstacle?_eq_some h.1
  | taggedEnum key variants => exact obstacle?_eq_some h.1
  | simpleEnum key names => exact Or.inl h.1
  | _ => exact h.elim

/-- Every key decodes all bytes from every offset, unless some shape trips: either there is a value, with the
cursor between the offset and the end, or the bytes are refused. If a shape trips, it is a value of the wrong type
or a field that cannot be set, but never a function that does not exist or calls that go too deep. -/
theorem decodeAt_total {r : Registry} {edition : Edition} {c : Codec} (hc : ofRegistry r edition = .ok c)
    (hr : r.IsNamed) :
    ((∀ key ∈ c.table.keys, ∀ (offset : Int) (bytes : List UInt8),
        (∃ v cur, c.decodeAt key offset bytes = .ok (v, cur) ∧ offset ≤ cur.position ∧ cur.position ≤ bytes.length ∧
          cur.rest = bytes.drop cur.position) ∨
        ∃ e, c.decodeAt key offset bytes = .error e ∧ e.IsRefusal) ↔
      ∀ s ∈ c.table.shapes, ∀ m, ¬c.Trips m s) ∧
    ∀ key ∈ c.table.keys, ∀ (offset : Int) (bytes : List UInt8) (e : CodecError),
      c.decodeAt key offset bytes = .error e →
      e.IsRefusal ∨ e = .misuse .wrongType ∨ e = .misuse .noField := by
  obtain ⟨hl, hs⟩ := sound_of_ofRegistry hc hr
  have hnames : ∀ s ∈ c.table.shapes, Text.IsName s.key := fun s hmem => hl.isName_key hr (List.mem_map_of_mem hmem)
  refine ⟨⟨fun h s hmem m ht => ?_, fun h key hkey offset bytes => ?_⟩, fun key hkey offset bytes e he => ?_⟩
  · obtain ⟨bytes, he⟩ := exists_decodeAt_error hs hmem ht
    rcases h s.key (List.mem_map_of_mem hmem) 0 bytes with ⟨v, cur, hv, -⟩ | ⟨e, he', hrefusal⟩
    · rw [he] at hv; cases hv
    · rw [he] at he'; cases he'
      exact hrefusal
  · cases he : c.decodeAt key offset bytes with
    | ok p =>
      obtain ⟨before, e, after, rfl, rfl, -, hcur⟩ := (decodeAt_eq_ok hs).1 he
      refine Or.inl ⟨p.1, p.2, rfl, ?_⟩
      rw [hcur]
      refine ⟨Int.ofNat_le.2 (Nat.le_add_right _ _), by simp, ?_⟩
      rw [← List.length_append, List.drop_left]
    | error e =>
      refine Or.inr ⟨e, rfl, (decodeAt_isFailure hs hnames hkey he).resolve_right ?_⟩
      rintro ⟨s, hmem, m, ht, -⟩
      exact h s hmem m ht
  · refine (decodeAt_isFailure hs hnames hkey he).imp_right ?_
    rintro ⟨s, -, m, ht, rfl⟩
    exact (misuse_of_trips ht).imp (congrArg _) (congrArg _)

/-- A choice that no variant has is refused. -/
theorem decodeAt_total_noVariant : ∃ e, nameVariantCodec.decodeAt "T" 0 [2, 0, 0, 0, 0, 0, 0, 0] = .error e ∧ e.IsRefusal := by
  refine ((decodeAt_total ofRegistry_nameVariant (Registry.isNamed_of_all (by decide))).1.2 (fun s hs m ht => ?_)
    "T" (by decide) 0 [2, 0, 0, 0, 0, 0, 0, 0]).resolve_left fun ⟨v, cur, h, _⟩ => ?_
  · have htagged : (taggedRecord "T" nameVariants).obstacle? = none := by decide
    obtain rfl | rfl | rfl : s = .primitive (.integer false .w8) ∨ s = .primitive (.integer false .w64) ∨
        s = .taggedEnum "T" nameVariants := by simpa [nameVariantCodec] using hs
    · exact ht
    · exact ht
    · rw [Trips, htagged] at ht
      cases ht.1
  · have hnone : (nameVariantCodec.decodeAt "T" 0 [2, 0, 0, 0, 0, 0, 0, 0]).toOption.isNone = true := rfl
    rw [h] at hnone
    cases hnone

/-! ## A variant in the place of a hook -/

/-- An enumeration with a variant that is called like the function which is asked for missing members. -/
def missingVariant : Registry :=
  [("E", .enum [⟨0, "_missing_", .unit⟩, ⟨1, "A", .unit⟩])]

/-- Its codec. -/
def missingVariantCodec : Codec where
  table :=
    { shapes := [.simpleEnum "E" ["_missing_", "A"]]
      keys_nodup := by decide
      not_reference := by decide }
  functions := [("E", .simpleEnum "E" ["_missing_", "A"])]

theorem ofRegistry_missingVariant : ofRegistry missingVariant = .ok missingVariantCodec :=
  ofRegistry_eq_ok (by decide +kernel)

/-- An ordinal that no member has is not refused. -/
theorem decodeAt_missingVariant : ofRegistry missingVariant = .ok missingVariantCodec ∧ missingVariant.IsNamed ∧
    "E" ∈ missingVariantCodec.table.keys ∧ missingVariantCodec.decodeAt "E" 0 [2] = .error (.misuse .wrongType) := by
  refine ⟨ofRegistry_missingVariant, Registry.isNamed_of_all (by decide), by decide, ?_⟩
  have henum : EnumType.ofNames (Text.asciiName "E") ["_missing_", "A"] = .ok ⟨[("A", 1)], [("_missing_", 0)], 0⟩ :=
    toOption_eq_some.1 (by decide +kernel)
  have hat : missingVariantCodec.decodeAt "E" 0 [2] =
      decodedMember missingVariantCodec "E" ["_missing_", "A"] 2 ⟨1, []⟩ := rfl
  rw [hat]
  exact (decodedMember_eq_error henum).2 ⟨by decide, rfl⟩

end Codec

end SolidityWire
