/-
Loading gives the registry that a document stands for, and a document that stands for none is refused in words. Two
bounds may be in the way: how deep nodes stand inside one another, and how many digits a number has that is shown.
-/
import SolidityWire.Proofs.Schema.Reading
import SolidityWire.Schema.Load

namespace SolidityWire

/-! ## Enumerations -/

/-- What is read of one entry of an enumeration. -/
theorem reads_indexed (apart : Prop) {node : Value} {entries : List (Value × Value)} {entry : Value × Value}
    (hnode : node.opened = .dict entries) (hentry : entry ∈ entries) :
    Reads apart Limit.formats node (IndexedVariant.ofEntry entry) fun shown v => Value.IsIndexed shown entry v := by
  unfold IndexedVariant.ofEntry
  split
  · rename_i index hkey
    have hread := reads_entry "variant" fun name content (_ : entry.2.IsEntry name content) =>
      (reads_variant apart content).bind fun vf _ => Reads.pure (IndexedVariant.mk index name vf)
    refine ((hread.within fun hj => hj.of_content hnode hentry).mono (by omega)).congr fun shown v => ⟨?_, ?_⟩
    · rintro ⟨name, content, hname, vf, hvf, rfl⟩
      exact ⟨hkey, content, hname, hvf⟩
    · rintro ⟨hindex, content, hname, hvf⟩
      cases hkey.symm.trans hindex
      exact ⟨_, content, hname, _, hvf, rfl⟩
  · rename_i hkey
    have hshown : (SchemaFault.indexNotInteger entry.1).Justified Limit.formats node := by
      refine SchemaFault.justified_of_shown nofun fun v hv hlong => ?_
      cases hv
      exact Value.isTooLong_of_entry hnode hentry (Or.inl hlong)
    exact Reads.throw hshown fun h => hkey _ h.1

theorem Value.isTaggedContainer_enum_iff {shown : Value → Prop} {node : Value} {c : Container} :
    Value.IsTaggedContainer shown "ENUM" node c ↔ ∃ entries, node.opened = .dict entries ∧ ∃ vs ws,
      List.Forall₂ (Value.IsIndexed shown) entries ws ∧ vs.Perm ws ∧ vs.Pairwise (fun v w => v.index < w.index) ∧
        c = .enum vs := by
  simp [isTaggedContainer_iff]

/-- What is read of the variants of an enumeration, in any order, if no key is there twice. -/
theorem reads_variants {node : Value} {entries : List (Value × Value)} (hnode : node.opened = .dict entries) :
    Reads ((entries.map Prod.fst).Pairwise fun k l => k.sameKey l = false) Limit.formats node
      (entries.mapM IndexedVariant.ofEntry >>= fun vs => .ok (Container.enum (sortVariants vs))) fun shown c =>
        Value.IsTaggedContainer shown "ENUM" node c := by
  have hread := fun apart => Reads.mapM fun entry hentry => reads_indexed apart hnode hentry
  refine ⟨fun hapart hx => ?_, fun hx => ?_, fun hc => ?_⟩
  · obtain ⟨ws, hws, hx⟩ := bind_eq_ok.1 hx
    cases hx
    exact .enum hnode ((hread _).sound hapart hws) (sortVariants_perm ws)
      (sortVariants_pairwise (nodup_index_of_mapM_ofEntry hapart hws))
  · rcases bind_eq_error.1 hx with herror | ⟨_, _, h⟩
    · exact (hread True).justified herror
    · cases h
  · obtain ⟨_, hentries, vs, ws, hws, hperm, hsorted, rfl⟩ := Value.isTaggedContainer_enum_iff.1 hc
    cases hnode.symm.trans hentries
    rcases (hread True).complete hws with hok | ⟨l, herror, hl⟩
    · -- the indices are different, so there is only one order of them
      have hn : (ws.map IndexedVariant.index).Nodup :=
        (hperm.map _).nodup_iff.1 (List.pairwise_map.2 (hsorted.imp Int.ne_of_lt))
      have he := eq_of_pairwise_index (sortVariants_pairwise hn) hsorted ((sortVariants_perm ws).trans hperm.symm)
      exact Or.inl (by rw [hok, ok_bind, he])
    · exact Or.inr ⟨l, by rw [herror]; rfl, hl⟩

/-! ## Containers -/

/-- What is read under the tag of a container. -/
theorem reads_taggedContainer {node content : Value} {tag : String} (hnode : node.IsEntry tag content) :
    Reads (HasKeysApart node) Limit.formats content
      (match tag with
        | "NEWTYPESTRUCT" => return .newTypeStruct (← Format.ofValue content)
        | "TUPLESTRUCT" => return .tupleStruct (← Format.ofValues (← listItems "TUPLESTRUCT" content))
        | "STRUCT" => return .struct (← readFields "STRUCT" content)
        | "ENUM" =>
          match content.opened with
          | .dict entries => return .enum (sortVariants (← entries.mapM IndexedVariant.ofEntry))
          | _ => throw (.variantsNotMapping content)
        | tag => throw (.unknownContainerTag tag)) fun shown c => Value.IsTaggedContainer shown tag content c := by
  split
  · exact ((reads_format _ content).bind fun f _ => Reads.pure (Container.newTypeStruct f)).congr fun shown c => by
      simp [Value.isTaggedContainer_iff]
  · have hlist := (reads_formats (HasKeysApart node) "TUPLESTRUCT" content).bind fun fs _ =>
      Reads.pure (Container.tupleStruct fs)
    rw [bind_assoc] at hlist
    exact hlist.congr fun shown c => by simp [Value.isTaggedContainer_iff]
  · exact ((reads_fields _ "STRUCT" content).bind fun fields _ => Reads.pure (Container.struct fields)).congr
      fun shown c => by simp [Value.isTaggedContainer_iff]
  · split
    · rename_i entries hentries
      exact (reads_variants hentries).imp fun hapart => hapart _ _ _ (singleEntry_eq_ok.2 hnode) hentries
    · rename_i hmapping
      refine Reads.throw (SchemaFault.justified_of_node nofun rfl) fun h => ?_
      obtain ⟨_, hentries, -⟩ := Value.isTaggedContainer_enum_iff.1 h
      exact hmapping _ hentries
  · rename_i h1 h2 h3 h4
    refine Reads.throw (SchemaFault.justified_of_none nofun rfl) fun h => ?_
    cases h with
    | newType => exact h1 rfl
    | tuple => exact h2 rfl
    | struct => exact h3 rfl
    | enum => exact h4 rfl

/-- What is read of a container is what it stands for. -/
theorem reads_container (node : Value) : Reads (HasKeysApart node) Limit.formats node (Container.ofValue node)
    fun shown c => node.IsContainer shown c := by
  unfold Container.ofValue
  split
  · refine (Reads.pure _).congr fun shown c => ⟨fun h => h ▸ .unit, fun h => ?_⟩
    cases h with
    | unit => rfl
    | tagged hentry _ => exact nomatch hentry
  · rename_i hnode
    refine ((reads_entry "container" fun tag content => reads_taggedContainer).mono (Nat.le_succ _)).congr
      fun shown c => ⟨?_, ?_⟩
    · rintro ⟨tag, content, hentry, htag⟩
      exact .tagged hentry htag
    · rintro (_ | ⟨hentry, htag⟩)
      · exact absurd rfl hnode
      · exact ⟨_, _, hentry, htag⟩

theorem limit?_inContainer {name : String} {fault : SchemaFault} (h : ∀ l, fault ≠ .beyond l) :
    (SchemaFault.inContainer name fault).limit? = fault.limit? := by
  cases fault with
  | beyond l => exact absurd rfl (h l)
  | _ => rfl

/-- The name that a fault is put under is all that it gets. -/
theorem reads_underName {apart : Prop} {levels : Nat} {node : Value} {x : Except SchemaFault Container}
    {stands : (Value → Prop) → Container → Prop} (name : String) (h : Reads apart levels node x stands) :
    Reads apart levels node (underName name x) stands := by
  unfold underName
  split
  · exact h
  · exact h
  · rename_i fault hbeyond
    have hfault : fault.Justified levels node := h.justified rfl
    refine ⟨fun _ hx => (nomatch hx), fun hx => ?_, fun hs => ?_⟩
    · cases hx
      have hlimit : (SchemaFault.inContainer name fault).limit? = fault.limit? := limit?_inContainer hbeyond
      exact ⟨fun hl => hfault.nesting (hlimit ▸ hl), fun hl => hfault.digits (hlimit ▸ hl)⟩
    · rcases h.complete hs with hx | ⟨l, hx, -⟩
      · cases hx
      · cases hx
        exact absurd rfl (hbeyond l)

/-! ## Registries -/

/-- What is read of one entry of a document. -/
theorem reads_namedContainer {document : Value} {entries : List (Value × Value)} {entry : Value × Value}
    (hdocument : document.opened = .dict entries) (hentry : entry ∈ entries) :
    Reads (HasKeysApart entry.2) Limit.formats document (readContainer entry) fun shown named =>
      entry.1 = .text named.1 ∧ entry.2.IsContainer shown named.2 := by
  unfold readContainer
  split
  · rename_i name hkey
    have hcontainer := (reads_container entry.2).within fun hj => hj.of_content hdocument hentry
    have hread := (reads_underName name (hcontainer.mono (Nat.le_succ _))).bind fun c _ => Reads.pure (name, c)
    refine hread.congr fun shown named => ⟨?_, ?_⟩
    · rintro ⟨c, hc, rfl⟩
      exact ⟨hkey, hc⟩
    · rintro ⟨hname, hc⟩
      cases hkey.symm.trans hname
      exact ⟨_, hc, rfl⟩
  · rename_i hkey
    have hshown : (SchemaFault.containerNameNotText entry.1).Justified Limit.formats document := by
      refine SchemaFault.justified_of_shown nofun fun v hv hlong => ?_
      cases hv
      exact Value.isTooLong_of_entry hdocument hentry (Or.inl hlong)
    exact Reads.throw hshown fun h => hkey _ h.1

/-- What is read of a document is the registry that it stands for. -/
theorem reads_registry (document : Value) :
    Reads (∀ entries, document.opened = .dict entries → ∀ entry ∈ entries, HasKeysApart entry.2) Limit.formats document
      (Registry.ofValue document) fun shown r => document.IsRegistry shown r := by
  unfold Registry.ofValue
  split
  · rename_i hnull
    refine (Reads.pure []).congr fun shown r => ⟨fun h => h ▸ .empty hnull, fun h => ?_⟩
    cases h with
    | empty => rfl
    | containers hentries _ => exact nomatch hnull.symm.trans hentries
  · rename_i entries hentries
    have hread := Reads.mapM fun entry hentry => (reads_namedContainer hentries hentry).imp
      fun hapart : ∀ entries, document.opened = .dict entries → ∀ entry ∈ entries, HasKeysApart entry.2 =>
        hapart entries hentries entry hentry
    refine hread.congr fun shown r => ⟨fun h => .containers hentries h, fun h => ?_⟩
    cases h with
    | empty hnull => exact nomatch hnull.symm.trans hentries
    | containers hentries' h =>
      cases hentries.symm.trans hentries'
      exact h
  · rename_i hnull hmapping
    refine Reads.throw (SchemaFault.justified_of_none nofun rfl) fun h => ?_
    cases h with
    | empty h => exact hnull h
    | containers h _ => exact hmapping _ h

namespace Registry

theorem load_eq_ok {document : Value} {r : Registry} : (load document).result = .ok r ↔ ofValue document = .ok r := by
  unfold load
  split <;> simp [*]

theorem load_eq_error {document : Value} {e : Error} : (load document).result = .error e ↔
    ∃ fault, ofValue document = .error fault ∧ Error.ofFault fault = e := by
  unfold load
  split <;> simp [*]

/-- A document whose enumerations have no key twice is loaded only as the registry it stands for. It is loaded if it
stands for one and its nodes do not stand too deep inside one another. Otherwise it is refused in words that it
stands for no registry, or a bound was gone beyond. Every registry whose variants are in the order of their indices
has a document that stands for it. -/
theorem load_exact (document : Value) :
    (∀ r, (∀ entries, document.opened = .dict entries → ∀ entry ∈ entries, HasKeysApart entry.2) →
      (load document).result = .ok r → document.IsRegistry Value.CanBeShown r) ∧
    (∀ r, document.nestsWithin Limit.formats = true → document.IsRegistry Value.CanBeShown r →
      (load document).result = .ok r) ∧
    (∀ e, (load document).result = .error e →
      ((∃ fault, e = .malformed fault) ∧ ∀ r, ¬document.IsRegistry (fun _ => True) r) ∨
      (e = .beyond .digits ∧ document.isTooLong = true) ∨
      (e = .beyond .nesting ∧ document.nestsWithin Limit.formats = false)) ∧
    ∀ r : Registry, r.Ordered → r.document.IsRegistry Value.CanBeShown r := by
  have hread := reads_registry document
  refine ⟨fun r hapart h => hread.sound hapart (load_eq_ok.1 h), fun r hnests hr => ?_, fun e he => ?_,
    fun r hr => isRegistry_document (fun _ => rfl) hr⟩
  · exact load_eq_ok.2 (hread.eq_ok hnests hr)
  obtain ⟨fault, hfault, rfl⟩ := load_eq_error.1 he
  have hj := hread.justified hfault
  unfold Error.ofFault
  split
  · rename_i l hlimit
    cases l with
    | digits => exact Or.inr (Or.inl ⟨rfl, hj.digits hlimit⟩)
    | nesting => exact Or.inr (Or.inr ⟨rfl, hj.nesting hlimit⟩)
  · rename_i hlimit
    exact Or.inl ⟨⟨fault, rfl⟩, fun r => hread.not_stands hfault hlimit⟩

/-- A map whose entries are in another order. -/
def counts : Value :=
  .entry "MAP" (.dict [(.text "VALUE", .text "U8"), (.text "KEY", .text "STR")])

/-- An array whose entries are in another order. -/
def flags : Value :=
  .entry "TUPLEARRAY" (.dict [(.text "SIZE", .integer 2), (.text "CONTENT", .text "BOOL")])

/-- A document of an enumeration whose variants are in another order. -/
def unsorted : Value :=
  .dict [(.text "E", .entry "ENUM" (.dict [(.integer 1, .entry "B" (.entry "NEWTYPE" counts)),
    (.integer 0, .entry "A" (.entry "NEWTYPE" flags))]))]

/-- The registry of that document. -/
def sorted : Registry :=
  [("E", .enum [⟨0, "A", .newType (.array (.primitive .bool) 2)⟩,
    ⟨1, "B", .newType (.map (.primitive .string) (.primitive (.integer false .w8)))⟩])]

theorem isRegistry_unsorted (shown : Value → Prop) : unsorted.IsRegistry shown sorted := by
  have hcounts : counts.IsFormat shown (.map (.primitive .string) (.primitive (.integer false .w8))) :=
    .tagged rfl (.map (Or.inr rfl) (.name rfl) (.name rfl))
  have hflags : flags.IsFormat shown (.array (.primitive .bool) 2) :=
    .tagged rfl (.array (Or.inr rfl) (.name rfl))
  refine .containers rfl (.cons ⟨rfl, .tagged rfl (.enum rfl ?_ (.swap _ _ _) (by decide))⟩ .nil)
  refine .cons ?_ (.cons ?_ .nil)
  · exact ⟨rfl, _, rfl, .tagged rfl (.newType hcounts)⟩
  · exact ⟨rfl, _, rfl, .tagged rfl (.newType hflags)⟩

theorem hasKeysApart_unsorted {entries : List (Value × Value)} (h : unsorted.opened = .dict entries) :
    ∀ entry ∈ entries, HasKeysApart entry.2 := by
  cases h
  intro entry hentry tag content variants htag hvariants
  cases List.mem_singleton.1 hentry
  cases htag
  cases hvariants
  decide

theorem load_exact_unsorted : (load unsorted).result = .ok sorted ∧ unsorted.IsRegistry Value.CanBeShown sorted := by
  have hnests : unsorted.nestsWithin Limit.formats = true :=
    Value.nestsWithin_of_le (by decide) (by decide : unsorted.nestsWithin 8 = true)
  have hload := (load_exact unsorted).2.1 sorted hnests (isRegistry_unsorted _)
  exact ⟨hload, (load_exact unsorted).1 sorted (fun _ => hasKeysApart_unsorted) hload⟩

/-! ## Beyond the bounds -/

/-- The document of one container around a format. -/
def around (node : Value) : Value :=
  .dict [(.text "A", .entry "NEWTYPESTRUCT" node)]

theorem isRegistry_around {shown : Value → Prop} {node : Value} {f : Format} (h : node.IsFormat shown f) :
    (around node).IsRegistry shown [("A", .newTypeStruct f)] :=
  .containers rfl (.cons ⟨rfl, .tagged rfl (.newType h)⟩ .nil)

theorem load_around {node : Value} {l : Limit} (h : Format.ofValue node = .error (.beyond l)) :
    (load (around node)).result = .error (.beyond l) := by
  have hcontainer : Container.ofValue (.entry "NEWTYPESTRUCT" node) = .error (.beyond l) := by
    change (Format.ofValue node >>= fun f => .ok (Container.newTypeStruct f)) = _
    rw [h]
    rfl
  have hread : readContainer (.text "A", .entry "NEWTYPESTRUCT" node) = .error (.beyond l) := by
    rw [readContainer, hcontainer]
    rfl
  refine load_eq_error.2 ⟨.beyond l, ?_, rfl⟩
  change [_].mapM readContainer = _
  rw [List.mapM_cons, hread]
  rfl

theorem ofValue_of_isTooLong {node : Value} (h : node.isTooLong = true) :
    Format.ofValue (.entry "VARIABLE" node) = .error (.beyond .digits) := by
  have hshown : shownText node = .error (.beyond .digits) := if_pos h
  change (shownText node >>= fun name => .ok (Format.variable name)) = _
  rw [hshown]
  rfl

/-- So many sequences inside one another. -/
def nested : Nat → Value
  | 0 => .text "U8"
  | n + 1 => .entry "SEQ" (nested n)

theorem exists_isFormat_nested (shown : Value → Prop) : ∀ n, ∃ f, (nested n).IsFormat shown f
  | 0 => ⟨.primitive (.integer false .w8), .name rfl⟩
  | n + 1 => by
    obtain ⟨f, hf⟩ := exists_isFormat_nested shown n
    exact ⟨.sequence f, .tagged rfl (.sequence hf)⟩

theorem read_nested : ∀ {levels n : Nat}, levels ≤ n → Format.read levels (nested n) = .error (.beyond .nesting)
  | 0, _, _ => rfl
  | 1, _ + 1, _ => rfl
  | levels + 2, n + 1, h => by
    change (Format.read (levels + 1) (nested n) >>= fun f => .ok (Format.sequence f)) = _
    rw [read_nested (Nat.le_of_succ_le_succ h)]
    rfl

/-- A document with a number that is too long where the name of a variable is written. -/
def wordless : Value :=
  around (.entry "VARIABLE" (.integer (10 ^ Text.mostDigits : Nat)))

/-- A document with too many sequences inside one another. -/
def bottomless : Value :=
  around (nested Limit.formats)

/-- Each of the two documents stands for a registry and is not loaded. -/
theorem load_beyond : ((∃ r, wordless.IsRegistry (fun _ => True) r) ∧
      (load wordless).result = .error (.beyond .digits)) ∧
    (∃ r, bottomless.IsRegistry (fun _ => True) r) ∧ (load bottomless).result = .error (.beyond .nesting) := by
  refine ⟨⟨?_, ?_⟩, ?_, load_around (read_nested (Nat.le_refl _))⟩
  · exact ⟨_, isRegistry_around (.tagged rfl (.variable trivial))⟩
  · have hlong : Text.isTooLong (10 ^ Text.mostDigits : Nat) = true :=
      decide_eq_true (Nat.le_of_eq (Int.natAbs_natCast _).symm)
    exact load_around (ofValue_of_isTooLong hlong)
  · obtain ⟨f, hf⟩ := exists_isFormat_nested (fun _ => True) Limit.formats
    exact ⟨_, isRegistry_around hf⟩

end Registry

end SolidityWire
