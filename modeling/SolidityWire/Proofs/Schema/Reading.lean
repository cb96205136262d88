/-
What is read of a node, step by step. Reading gives what the node stands for, and a node that stands for something is
read unless a bound is in the way: nodes may stand too deep inside one another, or a number that is shown in the name
of a variable may have too many digits.
-/
import SolidityWire.Proofs.Schema.Bounds
import SolidityWire.Proofs.Schema.Grammar
import SolidityWire.Proofs.Schema.Reader

namespace SolidityWire

/-! ## Results of reading -/

/-- The node can be written where it is shown. -/
def Value.CanBeShown (v : Value) : Prop :=
  v.isTooLong = false

/-- Reading stops at a bound; at the one for digits only if a node may be shown that cannot be written. -/
def Stops {α : Type} (shown : Value → Prop) (x : Except SchemaFault α) : Prop :=
  ∃ l, x = .error (.beyond l) ∧ (l = .digits → ∃ v, shown v ∧ v.isTooLong = true)

/-- The result of reading a node that stands for what `stands` says. Some of it may rest on the keys of the document
being different. -/
structure Reads {α : Type} (apart : Prop) (levels : Nat) (node : Value) (x : Except SchemaFault α)
    (stands : (Value → Prop) → α → Prop) : Prop where
  sound : ∀ {a}, apart → x = .ok a → stands Value.CanBeShown a
  justified : ∀ {fault}, x = .error fault → fault.Justified levels node
  complete : ∀ {shown a}, stands shown a → x = .ok a ∨ Stops shown x

namespace Reads

variable {α β : Type} {apart : Prop} {levels : Nat} {node : Value} {x : Except SchemaFault α}
  {stands : (Value → Prop) → α → Prop}

/-- Within the bounds, what a node stands for is read. -/
theorem eq_ok {a : α} (h : Reads apart levels node x stands) (hnests : node.nestsWithin levels = true)
    (hs : stands Value.CanBeShown a) : x = .ok a := by
  rcases h.complete hs with hok | ⟨l, herror, hl⟩
  · exact hok
  · cases l with
    | digits =>
      obtain ⟨v, hshown, hlong⟩ := hl rfl
      exact absurd (hshown.symm.trans hlong) Bool.false_ne_true
    | nesting => exact absurd (((h.justified herror).nesting rfl).symm.trans hnests) Bool.false_ne_true

/-- A node of which a fault is told stands for nothing. -/
theorem not_stands {fault : SchemaFault} (h : Reads apart levels node x stands) (hx : x = .error fault)
    (hlimit : fault.limit? = none) {shown : Value → Prop} {a : α} : ¬stands shown a := by
  intro hs
  rcases h.complete hs with hok | ⟨l, herror, -⟩
  · exact nomatch hx.symm.trans hok
  · cases hx.symm.trans herror
    cases hlimit

theorem congr {stands' : (Value → Prop) → α → Prop} (h : Reads apart levels node x stands)
    (hs : ∀ shown a, stands shown a ↔ stands' shown a) : Reads apart levels node x stands' where
  sound ha hx := (hs _ _).1 (h.sound ha hx)
  justified := h.justified
  complete hstands := h.complete ((hs _ _).2 hstands)

theorem imp {apart' : Prop} (h : Reads apart levels node x stands) (hapart : apart' → apart) :
    Reads apart' levels node x stands where
  sound ha := h.sound (hapart ha)
  justified := h.justified
  complete := h.complete

/-- What is read of a node that is inside another one. -/
theorem within {inner : Value} {levels' : Nat} (h : Reads apart levels inner x stands)
    (hj : ∀ {fault : SchemaFault}, fault.Justified levels inner → fault.Justified levels' node) :
    Reads apart levels' node x stands where
  sound := h.sound
  justified hx := hj (h.justified hx)
  complete := h.complete

theorem mono {levels' : Nat} (h : Reads apart levels' node x stands) (hle : levels ≤ levels') :
    Reads apart levels node x stands :=
  h.within fun hj => hj.mono hle

/-- What is read of the first part of a pair is read of the pair. -/
theorem of_first {first second : String} {a b : Value} (h : Reads apart levels a x stands)
    (hab : node.IsPair first second a b) : Reads apart levels node x stands := by
  refine mono (h.within fun hj => ?_) (Nat.le_succ levels)
  rcases hab with hab | hab
  · exact SchemaFault.Justified.of_content hj hab List.mem_cons_self
  · exact SchemaFault.Justified.of_content hj hab (List.mem_cons_of_mem _ List.mem_cons_self)

theorem of_second {first second : String} {a b : Value} (h : Reads apart levels b x stands)
    (hab : node.IsPair first second a b) : Reads apart levels node x stands :=
  h.of_first hab.symm

theorem pure (b : α) : Reads apart levels node (.ok b) fun _ a => a = b where
  sound _ hx := (Except.ok.inj hx).symm
  justified hx := nomatch hx
  complete hstands := Or.inl (congrArg Except.ok hstands.symm)

theorem throw {fault : SchemaFault} (h : fault.Justified levels node) (hno : ∀ {shown a}, ¬stands shown a) :
    Reads apart levels node (.error fault) stands where
  sound _ hx := nomatch hx
  justified hx := Except.error.inj hx ▸ h
  complete hstands := absurd hstands hno

theorem bind {f : α → Except SchemaFault β} {stands' : α → (Value → Prop) → β → Prop}
    (hx : Reads apart levels node x stands) (hf : ∀ a, x = .ok a → Reads apart levels node (f a) (stands' a)) :
    Reads apart levels node (x >>= f) fun shown b => ∃ a, stands shown a ∧ stands' a shown b where
  sound ha h := by
    obtain ⟨a, hok, hb⟩ := bind_eq_ok.1 h
    exact ⟨a, hx.sound ha hok, (hf a hok).sound ha hb⟩
  justified h := by
    rcases bind_eq_error.1 h with herror | ⟨a, hok, herror⟩
    · exact hx.justified herror
    · exact (hf a hok).justified herror
  complete := by
    rintro shown b ⟨a, ha, hb⟩
    rcases hx.complete ha with hok | ⟨l, herror, hl⟩
    · rw [hok]
      exact (hf a hok).complete hb
    · exact Or.inr ⟨l, by rw [herror]; rfl, hl⟩

/-- What is read of several nodes, one after the other. -/
theorem mapM {ι : Type} {f : ι → Except SchemaFault α} {stands' : ι → (Value → Prop) → α → Prop} :
    ∀ {items : List ι}, (∀ item ∈ items, Reads apart levels node (f item) (stands' item)) →
      Reads apart levels node (items.mapM f) fun shown as =>
        List.Forall₂ (fun item a => stands' item shown a) items as
  | [], _ => by
    rw [List.mapM_nil]
    exact (Reads.pure []).congr fun shown as => List.forall₂_nil_left_iff.symm
  | item :: items, h => by
    rw [List.mapM_cons]
    have hrest := mapM fun item' hitem => h item' (List.mem_cons_of_mem _ hitem)
    refine ((h item List.mem_cons_self).bind fun a _ => hrest.bind fun as _ => Reads.pure (a :: as)).congr ?_
    intro shown as
    rw [List.forall₂_cons_left_iff]
    exact ⟨fun ⟨a, ha, as', has, he⟩ => ⟨a, as', ha, has, he⟩, fun ⟨a, as', ha, has, he⟩ => ⟨a, ha, as', has, he⟩⟩

end Reads

/-! ## Steps of reading -/

section Steps

variable {apart : Prop} {levels : Nat} {node : Value}

theorem singleEntry_eq_ok {what tag : String} {content : Value} :
    singleEntry what node = .ok (tag, content) ↔ node.IsEntry tag content := by
  constructor
  · intro h
    unfold singleEntry at h
    split at h
    · rename_i hopened
      cases h
      exact hopened
    · cases h
    · cases h
  · intro h
    rw [Value.IsEntry] at h
    simp only [singleEntry, h]

theorem reads_singleEntry (what : String) (node : Value) :
    Reads apart levels node (singleEntry what node) fun _ entry => node.IsEntry entry.1 entry.2 where
  sound _ hx := singleEntry_eq_ok.1 hx
  justified hx := by
    unfold singleEntry at hx
    split at hx
    · cases hx
    · rename_i tag content _ hopened
      cases hx
      refine SchemaFault.justified_of_shown nofun fun v hv hlong => ?_
      cases hv
      exact Value.isTooLong_of_entry hopened (List.mem_singleton_self _) (Or.inl hlong)
    · cases hx
      exact SchemaFault.justified_of_node nofun rfl
  complete hentry := Or.inl (singleEntry_eq_ok.2 hentry)

/-- What is read of the content of an only entry. -/
theorem reads_entry {α : Type} (what : String) {f : String → Value → Except SchemaFault α}
    {stands : String → Value → (Value → Prop) → α → Prop}
    (hf : ∀ tag content, node.IsEntry tag content → Reads apart levels content (f tag content) (stands tag content)) :
    Reads apart (levels + 1) node (singleEntry what node >>= fun entry => f entry.1 entry.2) fun shown a =>
      ∃ tag content, node.IsEntry tag content ∧ stands tag content shown a := by
  have hcontent : ∀ entry, singleEntry what node = .ok entry →
      Reads apart (levels + 1) node (f entry.1 entry.2) (stands entry.1 entry.2) := fun entry hentry =>
    have hnode := singleEntry_eq_ok.1 hentry
    (hf entry.1 entry.2 hnode).within fun hj => hj.of_content hnode (List.mem_singleton_self _)
  exact ((reads_singleEntry what node).bind hcontent).congr fun shown a => Prod.exists

theorem listItems_eq_ok {what : String} {items : List Value} :
    listItems what node = .ok items ↔ node.opened = .list items := by
  constructor
  · intro h
    unfold listItems at h
    split at h
    · rename_i hopened
      cases h
      exact hopened
    · cases h
  · intro h
    simp only [listItems, h]

theorem reads_listItems (what : String) (node : Value) :
    Reads apart levels node (listItems what node) fun _ items => node.opened = .list items where
  sound _ hx := listItems_eq_ok.1 hx
  justified hx := by
    unfold listItems at hx
    split at hx
    · cases hx
    · cases hx
      exact SchemaFault.justified_of_node nofun rfl
  complete hitems := Or.inl (listItems_eq_ok.2 hitems)

/-- What is read of the items of a list. -/
theorem reads_items {α : Type} (what : String) (node : Value) {read : Value → Except SchemaFault α}
    {stands : Value → (Value → Prop) → α → Prop} (h : ∀ item, Reads apart levels item (read item) (stands item)) :
    Reads apart (levels + 1) node (listItems what node >>= fun items => items.mapM read) fun shown as =>
      node.IsListOf (fun item a => stands item shown a) as :=
  (reads_listItems what node).bind fun _ hitems =>
    Reads.mapM fun item hitem => (h item).within fun hj => hj.of_item (listItems_eq_ok.1 hitems) hitem

theorem reads_shownText :
    Reads apart levels node (shownText node) fun shown name => shown node ∧ name = node.display := by
  unfold shownText
  cases hlong : node.isTooLong with
  | false =>
    simp only [Bool.false_eq_true, if_false]
    exact ⟨fun _ hx => ⟨hlong, (Except.ok.inj hx).symm⟩, fun hx => (nomatch hx), fun hs => Or.inl (hs.2 ▸ rfl)⟩
  | true =>
    simp only [if_true]
    refine ⟨fun _ hx => (nomatch hx), fun hx => ⟨fun h => ?_, fun _ => hlong⟩, fun hs => Or.inr ⟨_, rfl, fun _ => ?_⟩⟩
    · cases hx
      cases h
    · exact ⟨node, hs.1, hlong⟩

theorem reads_arraySize : Reads apart levels node (arraySize node) fun _ n => node = .integer n where
  sound _ hx := by
    unfold arraySize at hx
    split at hx
    · cases hx
      rfl
    · cases hx
  justified hx := by
    unfold arraySize at hx
    split at hx
    · cases hx
    · cases hx
      exact SchemaFault.justified_of_node nofun rfl
  complete hn := Or.inl (by rw [hn]; rfl)

theorem twoEntries?_eq_some {first second : String} (hne : first ≠ second) {a b : Value} :
    twoEntries? first second node = some (a, b) ↔ node.IsPair first second a b := by
  constructor
  · intro h
    unfold twoEntries? at h
    split at h
    · rename_i m x n y hopened
      split at h
      · rename_i hmn
        obtain ⟨rfl, rfl⟩ := hmn
        cases h
        exact Or.inl hopened
      · split at h
        · rename_i hmn
          obtain ⟨rfl, rfl⟩ := hmn
          cases h
          exact Or.inr hopened
        · cases h
    · cases h
  · rintro (h | h)
    · simp [twoEntries?, h]
    · simp [twoEntries?, h, hne.symm]

/-- What is read of the two nodes of a pair, unless there is none. -/
theorem reads_pair {α : Type} {first second : String} (hne : first ≠ second) {fault : SchemaFault}
    (hfault : fault.Justified levels node) {f : Value → Value → Except SchemaFault α}
    {stands : Value → Value → (Value → Prop) → α → Prop}
    (hf : ∀ a b, node.IsPair first second a b → Reads apart levels node (f a b) (stands a b)) :
    Reads apart levels node (match twoEntries? first second node with
      | some (a, b) => f a b
      | none => .error fault) fun shown x => ∃ a b, node.IsPair first second a b ∧ stands a b shown x := by
  split
  · rename_i a b hpair
    have hab := (twoEntries?_eq_some hne).1 hpair
    refine (hf a b hab).congr fun shown x => ⟨fun hx => ⟨a, b, hab, hx⟩, ?_⟩
    rintro ⟨a', b', hab', hx⟩
    cases hpair.symm.trans ((twoEntries?_eq_some hne).2 hab')
    exact hx
  · rename_i hnone
    refine Reads.throw hfault ?_
    rintro shown x ⟨a, b, hab, -⟩
    exact nomatch hnone.symm.trans ((twoEntries?_eq_some hne).2 hab)

end Steps

/-! ## Formats -/

section Formats

variable {apart : Prop}

/-- What is read under a tag, if formats inside it are read as they should be, and those inside a tuple as far as two
levels less allow. -/
theorem reads_tagged {part item : Value → Except SchemaFault Format} {levels : Nat}
    (hpart : ∀ node, Reads apart levels node (part node) fun shown f => node.IsFormat shown f)
    (hitem : ∀ node, Reads apart (levels - 1) node (item node) fun shown f => node.IsFormat shown f)
    (tag : String) (node : Value) : Reads apart levels node (Format.readTagged part item tag node) fun shown f =>
      Value.IsTagged shown (Value.IsFormat shown) tag node f := by
  unfold Format.readTagged
  split
  · split
    · exact (Reads.pure _).congr fun shown f => by simp [Value.isTagged_iff]
    · rename_i hnode
      refine Reads.throw (SchemaFault.justified_of_node nofun rfl) fun h => ?_
      obtain ⟨name, hname, -⟩ : ∃ name, node = .text name ∧ _ = Format.typeName name := by
        simpa [Value.isTagged_iff] using h
      exact hnode name hname
  · exact ((hpart node).bind fun f _ => Reads.pure _).congr fun shown f => by simp [Value.isTagged_iff]
  · exact ((hpart node).bind fun f _ => Reads.pure _).congr fun shown f => by simp [Value.isTagged_iff]
  · have hpair := fun a b (hab : node.IsPair "KEY" "VALUE" a b) =>
      ((hpart a).of_first hab).bind fun key _ =>
        ((hpart b).of_second hab).bind fun value _ => Reads.pure (Format.map key value)
    have hnone : (SchemaFault.badMapEntries node).Justified levels node := SchemaFault.justified_of_node nofun rfl
    exact (reads_pair (by decide) hnone hpair).congr fun shown f => by simp [Value.isTagged_iff]
  · -- the list and its items are the two levels that a tuple takes
    have hitems := (reads_items "TUPLE" node hitem).mono (by omega : levels ≤ levels - 1 + 1)
    have hlist := hitems.bind fun fs _ => Reads.pure (Format.tuple fs)
    rw [bind_assoc] at hlist
    exact hlist.congr fun shown f => by simp [Value.isTagged_iff, Value.IsListOf, ← and_assoc]
  · have hpair := fun a b (hab : node.IsPair "CONTENT" "SIZE" a b) =>
      (reads_arraySize.of_second hab).bind fun size _ =>
        ((hpart a).of_first hab).bind fun f _ => Reads.pure (Format.array f size)
    have hnone : (SchemaFault.badArrayEntries node).Justified levels node := SchemaFault.justified_of_node nofun rfl
    exact (reads_pair (by decide) hnone hpair).congr fun shown f => by simp [Value.isTagged_iff]
  · exact (reads_shownText.bind fun name _ => Reads.pure _).congr fun shown f => by simp [Value.isTagged_iff]
  · rename_i h1 h2 h3 h4 h5 h6 h7
    refine Reads.throw (SchemaFault.justified_of_none nofun rfl) fun h => ?_
    cases h with
    | typeName => exact h1 rfl
    | option => exact h2 rfl
    | sequence => exact h3 rfl
    | map => exact h4 rfl
    | tuple => exact h5 rfl
    | array => exact h6 rfl
    | «variable» => exact h7 rfl

theorem isFormat_text_iff {shown : Value → Prop} {name : String} {f : Format} :
    (Value.text name).IsFormat shown f ↔ Format.ofName? name = some f := by
  constructor
  · intro h
    cases h with
    | name hname => exact hname
    | tagged hentry _ => exact nomatch hentry
  · exact .name

/-- What is read of a node, if what is inside it is read as it should be. -/
theorem reads_with {part item : Value → Except SchemaFault Format} {levels : Nat}
    (hpart : ∀ node, Reads apart levels node (part node) fun shown f => node.IsFormat shown f)
    (hitem : ∀ node, Reads apart (levels - 1) node (item node) fun shown f => node.IsFormat shown f)
    (node : Value) : Reads apart (levels + 1) node (Format.readWith part item node) fun shown f =>
      node.IsFormat shown f := by
  unfold Format.readWith
  split
  · rename_i name
    split
    · rename_i f hf
      exact (Reads.pure f).congr fun shown f' => by
        rw [isFormat_text_iff, hf, Option.some.injEq, eq_comm]
    · rename_i hnone
      refine Reads.throw (SchemaFault.justified_of_none nofun rfl) fun h => ?_
      exact nomatch hnone.symm.trans (isFormat_text_iff.1 h)
  · rename_i hnode
    have hread := reads_entry "format" fun tag content (_ : node.IsEntry tag content) =>
      reads_tagged hpart hitem tag content
    refine hread.congr fun shown f => ⟨?_, ?_⟩
    · rintro ⟨tag, content, hentry, htag⟩
      exact .tagged hentry htag
    · rintro (hname | ⟨hentry, htag⟩)
      · exact absurd rfl (hnode _)
      · exact ⟨_, _, hentry, htag⟩

/-- What is read of a format is what it stands for. The induction is on the levels, two at a time because of tuples. -/
theorem reads_read : ∀ (levels : Nat) (node : Value), Reads apart levels node (Format.read levels node) fun shown f =>
    node.IsFormat shown f
  | 0, _ => ⟨fun _ hx => (nomatch hx), fun hx => ⟨fun _ => rfl, fun hd => by cases hx; cases hd⟩,
      fun _ => Or.inr ⟨.nesting, rfl, nofun⟩⟩
  | 1, node => by
    have h0 := reads_read 0
    exact reads_with h0 h0 node
  | levels + 2, node => reads_with (reads_read (levels + 1)) (reads_read levels) node

variable (apart)

theorem reads_format (node : Value) : Reads apart Limit.formats node (Format.ofValue node) fun shown f =>
    node.IsFormat shown f :=
  reads_read Limit.formats node

theorem reads_formats (what : String) (node : Value) :
    Reads apart Limit.formats node (listItems what node >>= Format.ofValues) fun shown fs =>
      node.IsListOf (Value.IsFormat shown) fs :=
  (reads_items what node (reads_format apart)).mono (Nat.le_succ _)

theorem reads_named (what : String) (node : Value) :
    Reads apart Limit.formats node (readNamed what node) fun shown field => node.IsField shown field := by
  have hcontent := fun name content (_ : node.IsEntry name content) =>
    (reads_format apart content).bind fun f _ => Reads.pure (name, f)
  refine ((reads_entry what hcontent).mono (Nat.le_succ _)).congr fun shown field => ⟨?_, ?_⟩
  · rintro ⟨name, content, hnode, f, hf, rfl⟩
    exact ⟨content, hnode, hf⟩
  · rintro ⟨content, hnode, hf⟩
    exact ⟨_, content, hnode, _, hf, rfl⟩

theorem reads_fields (what : String) (node : Value) :
    Reads apart Limit.formats node (readFields what node) fun shown fields =>
      node.IsListOf (Value.IsField shown) fields :=
  (reads_items what node (reads_named apart _)).mono (Nat.le_succ _)

/-! ## Variants -/

/-- What is read under the tag of a variant. -/
theorem reads_taggedVariant (tag : String) (node : Value) : Reads apart Limit.formats node
    (match tag with
      | "NEWTYPE" => return .newType (← Format.ofValue node)
      | "TUPLE" => return .tuple (← Format.ofValues (← listItems "TUPLE variant" node))
      | "STRUCT" => return .struct (← readFields "STRUCT variant" node)
      | "VARIABLE" => return .variable (← shownText node)
      | tag => throw (.unknownVariantTag tag)) fun shown vf => Value.IsTaggedVariant shown tag node vf := by
  split
  · exact ((reads_format apart node).bind fun f _ => Reads.pure (VariantFormat.newType f)).congr fun shown vf => by
      simp [Value.isTaggedVariant_iff]
  · have hlist := (reads_formats apart "TUPLE variant" node).bind fun fs _ => Reads.pure (VariantFormat.tuple fs)
    rw [bind_assoc] at hlist
    exact hlist.congr fun shown vf => by simp [Value.isTaggedVariant_iff]
  · have hfields := (reads_fields apart "STRUCT variant" node).bind fun fields _ =>
      Reads.pure (VariantFormat.struct fields)
    exact hfields.congr fun shown vf => by simp [Value.isTaggedVariant_iff]
  · exact (reads_shownText.bind fun name _ => Reads.pure (VariantFormat.variable name)).congr fun shown vf => by
      simp [Value.isTaggedVariant_iff]
  · rename_i h1 h2 h3 h4
    refine Reads.throw (SchemaFault.justified_of_none nofun rfl) fun h => ?_
    cases h with
    | newType => exact h1 rfl
    | tuple => exact h2 rfl
    | struct => exact h3 rfl
    | «variable» => exact h4 rfl

theorem reads_variant (node : Value) : Reads apart Limit.formats node (VariantFormat.ofValue node) fun shown vf =>
    node.IsVariant shown vf := by
  unfold VariantFormat.ofValue
  split
  · refine (Reads.pure _).congr fun shown vf => ⟨fun h => h ▸ .unit, fun h => ?_⟩
    cases h with
    | unit => rfl
    | tagged hentry _ => exact nomatch hentry
  · rename_i hnode
    have hread := reads_entry "variant" fun tag content (_ : node.IsEntry tag content) =>
      reads_taggedVariant apart tag content
    refine (hread.mono (Nat.le_succ _)).congr fun shown vf => ⟨?_, ?_⟩
    · rintro ⟨tag, content, hentry, htag⟩
      exact .tagged hentry htag
    · rintro (_ | ⟨hentry, htag⟩)
      · exact absurd rfl hnode
      · exact ⟨_, _, hentry, htag⟩

end Formats

end SolidityWire
