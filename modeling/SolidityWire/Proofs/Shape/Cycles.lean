/-
The search for a shape that depends on itself: how it runs, that it ends, and what it reports. Where it reports
nothing, every key that a shape depends on is registered and no key leads back to itself, so that keys can be ranked
by how many others they lead to; where it reports a cycle, the key leads back to itself, and a key that it misses is
one that a shape depends on.

A level is a set of keys, which may be looked up in any order. A search that reports nothing has visited a set of
keys that holds all dependencies of its members. The bound on its levels is never what ends it, because each level
that is not empty holds a key of the table that no level before it has.
-/
import Mathlib.Data.Finset.Card
import Mathlib.Logic.Relation
import SolidityWire.Proofs.Shape.Plan
import SolidityWire.Shape.Cycles

namespace SolidityWire

/-- A shape depends on its children. -/
theorem Shape.key_mem_dependencies {s child : Shape} (hc : child ∈ s.children) : child.key ∈ s.dependencies := by
  cases s with
  | option value => exact List.mem_cons_of_mem _ (List.mem_singleton.1 hc ▸ List.mem_cons_self)
  | taggedEnum name variants =>
    obtain ⟨p, hp, rfl⟩ := List.mem_map.1 hc
    exact List.mem_cons_of_mem _ (List.mem_map_of_mem hp)
  | primitive _ => cases hc
  | reference _ => cases hc
  | simpleEnum _ _ => cases hc
  | _ => exact List.mem_map_of_mem hc

namespace Table

/-- The shape under the first key depends on the second key. -/
def Depends (t : Table) (a b : String) : Prop :=
  ∃ s, t.get? a = some s ∧ b ∈ s.dependencies

theorem depends_child {t : Table} {s child : Shape} (hs : s ∈ t.shapes) (hc : child ∈ s.children) :
    t.Depends s.key child.key :=
  ⟨s, get?_eq_some_iff.2 ⟨hs, rfl⟩, Shape.key_mem_dependencies hc⟩

/-- Every dependency is registered, and no key leads back to itself. -/
structure Grounded (t : Table) : Prop where
  closed : ∀ {a b}, t.Depends a b → b ∈ t.keys
  acyclic : ∀ a, ¬Relation.TransGen t.Depends a a

/-! ## Dependencies of a level -/

theorem dependenciesOf_eq_ok {t : Table} : ∀ {level next : List String}, t.dependenciesOf level = .ok next →
    ∀ a ∈ level, a ∈ t.keys ∧ ∀ b, t.Depends a b → b ∈ next
  | [], _, _, a, ha => nomatch ha
  | k :: rest, next, h, a, ha => by
    unfold dependenciesOf at h
    split at h
    · cases h
    rename_i s hs
    cases hr : t.dependenciesOf rest with
    | error e => rw [hr] at h; cases h
    | ok next' =>
      rw [hr] at h; cases h
      rcases List.mem_cons.1 ha with rfl | ha
      · refine ⟨mem_keys_iff.2 ⟨s, hs⟩, ?_⟩
        rintro b ⟨s', hs', hb⟩
        cases hs.symm.trans hs'
        exact List.mem_append_left _ hb
      · obtain ⟨hk, hd⟩ := dependenciesOf_eq_ok hr a ha
        exact ⟨hk, fun b hb => List.mem_append_right _ (hd b hb)⟩

theorem dependenciesOf_eq_error {t : Table} : ∀ {level : List String} {key : String},
    t.dependenciesOf level = .error key → key ∈ level ∧ key ∉ t.keys
  | k :: rest, key, h => by
    unfold dependenciesOf at h
    split at h
    · rename_i hk
      cases h
      exact ⟨List.mem_cons_self, get?_eq_none_iff.1 hk⟩
    · rw [map_eq_error] at h
      have ⟨hmem, hkey⟩ := dependenciesOf_eq_error h
      exact ⟨List.mem_cons_of_mem _ hmem, hkey⟩

theorem depends_of_dependenciesOf {t : Table} : ∀ {level next : List String}, t.dependenciesOf level = .ok next →
    ∀ b ∈ next, ∃ a ∈ level, t.Depends a b
  | [], _, h, b, hb => by cases h; cases hb
  | k :: rest, _, h, b, hb => by
    unfold dependenciesOf at h
    split at h
    · cases h
    rename_i s hs
    obtain ⟨next, hnext, rfl⟩ := map_eq_ok.1 h
    rcases List.mem_append.1 hb with hb | hb
    · exact ⟨k, List.mem_cons_self, s, hs, hb⟩
    · have ⟨a, ha, hd⟩ := depends_of_dependenciesOf hnext b hb
      exact ⟨a, List.mem_cons_of_mem _ ha, hd⟩

/-- The dependencies of a level are exactly those of its keys. -/
theorem mem_dependenciesOf {t : Table} {level next : List String} (h : t.dependenciesOf level = .ok next) {b : String} :
    b ∈ next ↔ ∃ a ∈ level, t.Depends a b :=
  ⟨depends_of_dependenciesOf h b, fun ⟨a, ha, hd⟩ => (dependenciesOf_eq_ok h a ha).2 b hd⟩

/-! ## Runs -/

/-- What a search reports that has come to a level of keys, the keys of the levels before it being in `visited`. -/
inductive Reports (t : Table) (start : String) : (visited level : Finset String) → Search → Prop
  | cycle {visited level : Finset String} : start ∈ level → Reports t start visited level .cycle
  | missing {visited level : Finset String} {key : String} : start ∉ level → key ∈ level → key ∉ t.keys →
    Reports t start visited level (.missing key)
  | noCycle {visited : Finset String} : Reports t start visited ∅ .noCycle
  | further {visited level next : Finset String} {found : Search} : start ∉ level → level.Nonempty →
    (∀ a ∈ level, a ∈ t.keys) → (∀ b, b ∈ next ↔ (∃ a ∈ level, t.Depends a b) ∧ b ∉ visited ∪ level) →
    Reports t start (visited ∪ level) next found → Reports t start visited level found

/-- What the searches from several shapes report, one after the other: the key of the first shape that depends on
itself, unless a key without a shape is met before. -/
inductive Checks (t : Table) : List Shape → Except String (Option String) → Prop
  | done : Checks t [] (.ok none)
  | cycle {s : Shape} {rest : List Shape} : Reports t s.key ∅ s.dependencies.toFinset .cycle →
    Checks t (s :: rest) (.ok (some s.key))
  | missing {s : Shape} {rest : List Shape} {key : String} :
    Reports t s.key ∅ s.dependencies.toFinset (.missing key) → Checks t (s :: rest) (.error key)
  | next {s : Shape} {rest : List Shape} {result : Except String (Option String)} :
    Reports t s.key ∅ s.dependencies.toFinset .noCycle → Checks t rest result → Checks t (s :: rest) result

section Runs

variable {t : Table} {start : String}

/-! ## The end of a search -/

/-- A level of keys that have not been visited leaves fewer of them. -/
theorem card_unvisited_lt {visited level : Finset String} (hne : level.Nonempty) (hkeys : ∀ a ∈ level, a ∈ t.keys)
    (hfresh : ∀ a ∈ level, a ∉ visited) :
    (t.keys.toFinset \ (visited ∪ level)).card < (t.keys.toFinset \ visited).card := by
  obtain ⟨k, hk⟩ := hne
  have hsub : t.keys.toFinset \ (visited ∪ level) ⊆ t.keys.toFinset \ visited :=
    Finset.sdiff_subset_sdiff (Finset.Subset.refl _) Finset.subset_union_left
  refine Finset.card_lt_card ((Finset.ssubset_iff_of_subset hsub).2 ⟨k, ?_, ?_⟩)
  · exact Finset.mem_sdiff.2 ⟨List.mem_toFinset.2 (hkeys k hk), hfresh k hk⟩
  · exact fun h => (Finset.mem_sdiff.1 h).2 (Finset.mem_union_right _ hk)

/-- A search that has levels enough for the keys that are left runs until it ends by itself. -/
theorem reports_searchFrom : ∀ {levels : Nat} {visited level : List String},
    (t.keys.toFinset \ visited.toFinset).card < levels → (∀ a ∈ level, a ∉ visited) →
    t.Reports start visited.toFinset level.toFinset (t.searchFrom start levels visited level)
  | 0, _, _, hlevels, _ => absurd hlevels (Nat.not_lt_zero _)
  | levels + 1, visited, level, hlevels, hfresh => by
    unfold searchFrom
    split
    · rename_i hempty
      rw [List.isEmpty_iff.1 hempty]
      exact .noCycle
    rename_i hempty
    split
    · rename_i hstart
      exact .cycle (List.mem_toFinset.2 (List.contains_iff_mem.1 hstart))
    rename_i hstart
    rw [List.contains_iff_mem, ← List.mem_toFinset] at hstart
    split
    · rename_i key hkey
      have ⟨hmem, hmissing⟩ := dependenciesOf_eq_error hkey
      exact .missing hstart (List.mem_toFinset.2 hmem) hmissing
    · rename_i next hnext
      have hne : level.toFinset.Nonempty :=
        (List.toFinset_nonempty_iff level).2 fun h => hempty (List.isEmpty_iff.2 h)
      have hkeys : ∀ a ∈ level.toFinset, a ∈ t.keys := fun a ha =>
        (dependenciesOf_eq_ok hnext a (List.mem_toFinset.1 ha)).1
      have hunion : (level ++ visited).toFinset = visited.toFinset ∪ level.toFinset := by
        rw [List.toFinset_append, Finset.union_comm]
      have hfewer := card_unvisited_lt hne hkeys fun a ha hv =>
        hfresh a (List.mem_toFinset.1 ha) (List.mem_toFinset.1 hv)
      -- the next level has what is new of the dependencies
      have hnew : ∀ b, b ∈ next.eraseDups.filter (fun k => !(level ++ visited).contains k) ↔
          (∃ a ∈ level, t.Depends a b) ∧ b ∉ level ++ visited := fun b => by
        rw [List.mem_filter, List.mem_eraseDups, mem_dependenciesOf hnext, Bool.not_eq_true', ← Bool.not_eq_true,
          List.contains_iff_mem]
      have hrest : t.Reports start (level ++ visited).toFinset _ (t.searchFrom start levels (level ++ visited) _) :=
        reports_searchFrom (by rw [hunion]; omega) fun b hb => ((hnew b).1 hb).2
      rw [hunion] at hrest
      refine .further hstart hne hkeys (fun b => ?_) hrest
      rw [List.mem_toFinset, hnew, ← hunion, List.mem_toFinset]
      simp only [List.mem_toFinset]

/-- The search from a registered shape ends by itself. -/
theorem reports_searchAt (s : Shape) : t.Reports s.key ∅ s.dependencies.toFinset (t.searchAt s) := by
  have hlevels : (t.keys.toFinset \ ([] : List String).toFinset).card < t.size + 2 := by
    have hcard := t.keys.toFinset_card_le
    have hsize : t.keys.length = t.size := List.length_map ..
    rw [List.toFinset_nil, Finset.sdiff_empty]
    omega
  have hreports : t.Reports s.key _ s.dependencies.eraseDups.toFinset (t.searchAt s) :=
    reports_searchFrom hlevels fun _ _ => List.not_mem_nil
  have hlevel : s.dependencies.eraseDups.toFinset = s.dependencies.toFinset :=
    Finset.ext fun a => by rw [List.mem_toFinset, List.mem_eraseDups, List.mem_toFinset]
  rwa [hlevel] at hreports

theorem checks_firstCycle : ∀ shapes : List Shape, t.Checks shapes (t.firstCycle shapes)
  | [] => .done
  | s :: rest => by
    have hreports := reports_searchAt (t := t) s
    unfold firstCycle
    split
    · rename_i hs
      exact .cycle (hs ▸ hreports)
    · rename_i key hs
      exact .missing (hs ▸ hreports)
    · rename_i hs
      exact .next (hs ▸ hreports) (checks_firstCycle rest)

/-! ## What a search reports -/

/-- What a search from a key reports: that the key leads back to itself, or a key without a shape that the
key leads to. -/
def Search.Holds (t : Table) (start : String) : Search → Prop
  | .cycle => Relation.TransGen t.Depends start start
  | .missing key => Relation.TransGen t.Depends start key ∧ key ∉ t.keys
  | .noCycle => True

/-- A search reports what holds, since the start leads to all keys of each level. -/
theorem Reports.holds {visited level : Finset String} {found : Search} (h : t.Reports start visited level found)
    (hlevel : ∀ a ∈ level, Relation.TransGen t.Depends start a) : found.Holds t start := by
  induction h with
  | cycle hstart => exact hlevel _ hstart
  | missing _ hkey hmissing => exact ⟨hlevel _ hkey, hmissing⟩
  | noCycle => trivial
  | further _ _ _ hnext _ ih =>
    refine ih fun b hb => ?_
    obtain ⟨⟨a, ha, hd⟩, -⟩ := (hnext b).1 hb
    exact (hlevel a ha).tail hd

/-- A search that reports nothing has visited registered keys with all that they depend on, and not the start. -/
theorem Reports.avoids {visited level : Finset String} {found : Search} (h : t.Reports start visited level found)
    (hfound : found = .noCycle) (hstart : start ∉ visited) (hkeys : ∀ a ∈ visited, a ∈ t.keys)
    (hclosed : ∀ a ∈ visited, ∀ b, t.Depends a b → b ∈ visited ∪ level) :
    ∃ all : Finset String, visited ∪ level ⊆ all ∧ start ∉ all ∧ (∀ a ∈ all, a ∈ t.keys) ∧
      ∀ a ∈ all, ∀ b, t.Depends a b → b ∈ all := by
  induction h with
  | cycle _ | missing _ _ _ => cases hfound
  | @noCycle visited =>
    rw [Finset.union_empty] at hclosed ⊢
    exact ⟨visited, Finset.Subset.refl _, hstart, hkeys, hclosed⟩
  | @further visited level next _ hlevel _ hregistered hnext _ ih =>
    obtain ⟨all, hsub, hall⟩ := ih hfound (by simp [hstart, hlevel])
      (fun a ha => (Finset.mem_union.1 ha).elim (hkeys a) (hregistered a)) fun a ha b hd => by
        by_cases hb : b ∈ visited ∪ level
        · exact Finset.mem_union_left _ hb
        · have ha' : a ∈ level := (Finset.mem_union.1 ha).resolve_left fun hv => hb (hclosed a hv b hd)
          exact Finset.mem_union_right _ ((hnext b).2 ⟨⟨a, ha', hd⟩, hb⟩)
    exact ⟨all, Finset.union_subset_left hsub, hall⟩

/-- Where the search from a shape reports nothing, it leads to registered keys only, and not to itself. -/
theorem Reports.grounded {s : Shape} (hs : s ∈ t.shapes) (h : t.Reports s.key ∅ s.dependencies.toFinset .noCycle) :
    (∀ b ∈ s.dependencies, b ∈ t.keys) ∧ ¬Relation.TransGen t.Depends s.key s.key := by
  obtain ⟨all, hsub, hstart, hkeys, hclosed⟩ := h.avoids rfl (Finset.notMem_empty _) (fun _ h => nomatch h)
    fun _ h => nomatch h
  have hdeps : ∀ b ∈ s.dependencies, b ∈ all := fun b hb =>
    hsub (Finset.mem_union_right _ (List.mem_toFinset.2 hb))
  refine ⟨fun b hb => hkeys b (hdeps b hb), fun hcycle => hstart ?_⟩
  -- nothing that the shape leads to leaves what the search has visited
  have stays : ∀ c, Relation.TransGen t.Depends s.key c → c ∈ all := fun c hc => by
    induction hc with
    | single hd =>
      obtain ⟨s', hs', hb⟩ := hd
      rw [get?_eq_some_iff.2 ⟨hs, rfl⟩] at hs'
      cases hs'
      exact hdeps _ hb
    | tail _ hd ih => exact hclosed _ ih _ hd
  exact stays _ hcycle

/-- A search from a registered shape reports what holds. -/
theorem Reports.holds_at {s : Shape} {found : Search} (hs : s ∈ t.shapes)
    (h : t.Reports s.key ∅ s.dependencies.toFinset found) : found.Holds t s.key :=
  h.holds fun _ ha => .single ⟨s, get?_eq_some_iff.2 ⟨hs, rfl⟩, List.mem_toFinset.1 ha⟩

/-! ## What the check reports -/

theorem Checks.eq_none {shapes : List Shape} {result : Except String (Option String)} (h : t.Checks shapes result)
    (hresult : result = .ok none) :
    ∀ s ∈ shapes, t.Reports s.key ∅ s.dependencies.toFinset .noCycle := by
  induction h with
  | done => exact fun _ hs => nomatch hs
  | cycle _ | missing _ => cases hresult
  | next hreports _ ih => exact List.forall_mem_cons.2 ⟨hreports, ih hresult⟩

theorem Checks.eq_some {shapes : List Shape} {result : Except String (Option String)} {key : String}
    (h : t.Checks shapes result) (hresult : result = .ok (some key)) :
    ∃ s ∈ shapes, s.key = key ∧ t.Reports s.key ∅ s.dependencies.toFinset .cycle := by
  induction h with
  | done | missing _ => cases hresult
  | cycle hreports =>
    cases hresult
    exact ⟨_, List.mem_cons_self, rfl, hreports⟩
  | next _ _ ih =>
    obtain ⟨s, hs, hcycle⟩ := ih hresult
    exact ⟨s, List.mem_cons_of_mem _ hs, hcycle⟩

theorem Checks.eq_error {shapes : List Shape} {result : Except String (Option String)} {name : String}
    (h : t.Checks shapes result) (hresult : result = .error name) :
    ∃ s ∈ shapes, t.Reports s.key ∅ s.dependencies.toFinset (.missing name) := by
  induction h with
  | done | cycle _ => cases hresult
  | missing hreports =>
    cases hresult
    exact ⟨_, List.mem_cons_self, hreports⟩
  | next _ _ ih =>
    obtain ⟨s, hs, hmissing⟩ := ih hresult
    exact ⟨s, List.mem_cons_of_mem _ hs, hmissing⟩

/-- A cycle that is reported is there. -/
theorem Checks.transGen {key : String} (h : t.Checks t.shapes (.ok (some key))) :
    Relation.TransGen t.Depends key key := by
  obtain ⟨s, hs, rfl, hreports⟩ := h.eq_some rfl
  exact hreports.holds_at hs

/-- A key that is reported as missing has no shape, and some shape depends on it. -/
theorem Checks.depends_of_error {name : String} (h : t.Checks t.shapes (.error name)) :
    name ∉ t.keys ∧ ∃ a, t.Depends a name := by
  obtain ⟨s, hs, hreports⟩ := h.eq_error rfl
  have ⟨hleads, hmissing⟩ := hreports.holds_at hs
  obtain ⟨a, -, hd⟩ := Relation.TransGen.tail'_iff.1 hleads
  exact ⟨hmissing, a, hd⟩

/-- Nothing is reported exactly if all dependencies are registered and no key leads back to itself. -/
theorem Checks.eq_none_iff {result : Except String (Option String)} (h : t.Checks t.shapes result) :
    result = .ok none ↔ t.Grounded := by
  constructor
  · intro hresult
    have hgrounded := fun s hs => (h.eq_none hresult s hs).grounded hs
    constructor
    · rintro a b ⟨s, hs, hb⟩
      exact (hgrounded s (mem_of_get? hs).1).1 b hb
    · intro a hcycle
      obtain ⟨b, ⟨s, hs, -⟩, -⟩ := Relation.TransGen.head'_iff.1 hcycle
      obtain ⟨hmem, rfl⟩ := mem_of_get? hs
      exact (hgrounded s hmem).2 hcycle
  · intro hgrounded
    match result, h with
    | .ok none, _ => rfl
    | .ok (some key), h => exact absurd h.transGen (hgrounded.acyclic key)
    | .error name, h =>
      obtain ⟨hmissing, a, hd⟩ := h.depends_of_error
      exact absurd (hgrounded.closed hd) hmissing

/-! ## What the search finds -/

/-- A key at which the search finds a cycle leads back to itself. -/
theorem transGen_of_findCycle {key : String} (h : t.findCycle = .ok (some key)) :
    Relation.TransGen t.Depends key key :=
  Checks.transGen (h ▸ checks_firstCycle t.shapes)

/-- A key that the search misses has no shape, and some shape depends on it. -/
theorem depends_of_findCycle {name : String} (h : t.findCycle = .error name) :
    name ∉ t.keys ∧ ∃ a, t.Depends a name :=
  Checks.depends_of_error (h ▸ checks_firstCycle t.shapes)

/-- The search finds nothing exactly if all dependencies are registered and no key leads back to itself. -/
theorem findCycle_eq_none : t.findCycle = .ok none ↔ t.Grounded :=
  (checks_firstCycle t.shapes).eq_none_iff

end Runs

/-- The search for a shape that depends on itself ends in every table, also where dependencies go in circles or lead
to keys without a shape. In whatever order the keys of its levels are looked up, it reports nothing if and only if
every key that a shape depends on is registered and no key leads back to itself; a key that it reports to lead back
to itself does so; and a name that it misses is one that a shape depends on and that no shape has. -/
theorem findCycle_exact (t : Table) :
    t.Checks t.shapes t.findCycle ∧ ∀ result, t.Checks t.shapes result →
      (result = .ok none ↔ t.Grounded) ∧
      (∀ key, result = .ok (some key) → Relation.TransGen t.Depends key key) ∧
      ∀ name, result = .error name → name ∉ t.keys ∧ ∃ a, t.Depends a name := by
  refine ⟨checks_firstCycle t.shapes, fun result h => ⟨h.eq_none_iff, fun key hkey => ?_, fun name hname => ?_⟩⟩
  · exact (hkey ▸ h).transGen
  · exact (hname ▸ h).depends_of_error

/-- The table of one struct, which holds what is under the given names. -/
def holding (names : List String) : Table where
  shapes := [.struct "A" (names.map fun name => ("a", .reference name))]
  not_reference := List.forall_mem_singleton.2 rfl

/-- A struct that holds itself is found, one that holds another which is not there is told, and nothing is reported
of one that holds nothing. -/
theorem findCycle_exact_holding :
    (holding ["B", "A"]).findCycle = .ok (some "A") ∧ Relation.TransGen (holding ["B", "A"]).Depends "A" "A" ∧
    (holding ["B"]).findCycle = .error "B" ∧ "B" ∉ (holding ["B"]).keys ∧ (∃ a, (holding ["B"]).Depends a "B") ∧
    (holding []).findCycle = .ok none ∧ (holding []).Grounded := by
  obtain ⟨hcircle, hcircles⟩ := findCycle_exact (holding ["B", "A"])
  obtain ⟨hmissing, hmisses⟩ := findCycle_exact (holding ["B"])
  obtain ⟨hnone, hnothing⟩ := findCycle_exact (holding [])
  refine ⟨rfl, (hcircles _ hcircle).2.1 "A" rfl, rfl, ?_, ?_, rfl, (hnothing _ hnone).1.1 rfl⟩
  · exact ((hmisses _ hmissing).2.2 "B" rfl).1
  · exact ((hmisses _ hmissing).2.2 "B" rfl).2

/-! ## Ranks -/

open Classical in
/-- How many keys of the table a key leads to. -/
noncomputable def rank (t : Table) (key : String) : Nat :=
  (t.keys.toFinset.filter (Relation.TransGen t.Depends key ·)).card

open Classical in
/-- Dependencies have a lower rank. -/
theorem Grounded.rank_lt {t : Table} (h : t.Grounded) {a b : String} (hd : t.Depends a b) : t.rank b < t.rank a := by
  unfold rank
  apply Finset.card_lt_card
  rw [Finset.ssubset_iff_of_subset]
  · refine ⟨b, ?_, ?_⟩
    · rw [Finset.mem_filter, List.mem_toFinset]; exact ⟨h.closed hd, .single hd⟩
    · rw [Finset.mem_filter]; exact fun hb => h.acyclic b hb.2
  · intro c
    simp only [Finset.mem_filter]
    exact fun ⟨hc, hbc⟩ => ⟨hc, .head hd hbc⟩

open Classical in
/-- A registered key has a rank below the size of the table. -/
theorem Grounded.rank_lt_size {t : Table} (h : t.Grounded) {a : String} (ha : a ∈ t.keys) : t.rank a < t.size := by
  have hlt : t.rank a < t.keys.toFinset.card := by
    apply Finset.card_lt_card
    rw [Finset.ssubset_iff_of_subset (Finset.filter_subset ..)]
    exact ⟨a, List.mem_toFinset.2 ha, by rw [Finset.mem_filter]; exact fun hc => h.acyclic a hc.2⟩
  have hle := t.keys.toFinset_card_le
  have hlen : t.keys.length = t.size := List.length_map ..
  omega

end Table

end SolidityWire
