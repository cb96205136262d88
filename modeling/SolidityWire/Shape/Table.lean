/-
The table of shapes: one shape for each key, in the order of registration, references left out.
Registering a shape that is there changes nothing; a different shape under a taken key is refused.
-/
import SolidityWire.Shape.Basic
import SolidityWire.Shape.Unsupported

namespace SolidityWire

/-- Shapes under their keys, in the order of registration. -/
structure Table where
  shapes : List Shape
  keys_nodup : (shapes.map Shape.key).Nodup := by simp
  not_reference : ∀ s ∈ shapes, s.isReference = false := by simp

namespace Table

/-- The table without shapes. -/
def empty : Table where
  shapes := []

instance : Inhabited Table := ⟨empty⟩

/-! ## Look-up -/

/-- The keys, in the order of registration. -/
def keys (t : Table) : List String :=
  t.shapes.map Shape.key

/-- The number of shapes. -/
def size (t : Table) : Nat :=
  t.shapes.length

/-- The shape under a key. -/
def get? (t : Table) (key : String) : Option Shape :=
  t.shapes.find? (·.key == key)

/-- Whether there is a shape under the key. -/
def contains (t : Table) (key : String) : Bool :=
  (t.get? key).isSome

/-- The registered shape that a shape stands for: a reference is followed. -/
def resolve? (t : Table) : Shape → Option Shape
  | .reference name => t.get? name
  | s => some s

/-- A shape that is found is registered, under the key that was asked for. -/
theorem mem_of_get? {t : Table} {key : String} {s : Shape} (h : t.get? key = some s) :
    s ∈ t.shapes ∧ s.key = key := by
  exact ⟨List.mem_of_find?_eq_some h, by simpa using List.find?_some h⟩

/-- Nothing is found under a key iff no registered shape has it. -/
theorem get?_eq_none_iff {t : Table} {key : String} : t.get? key = none ↔ key ∉ t.keys := by
  simp [get?, keys, List.find?_eq_none]

/-! ## Registration -/

/-- The table with one more shape. -/
def push (t : Table) (s : Shape) (fresh : s.key ∉ t.keys) (solid : s.isReference = false) :
    Table where
  shapes := t.shapes ++ [s]
  keys_nodup := by
    rw [List.map_append, List.nodup_append]
    refine ⟨t.keys_nodup, by simp, ?_⟩
    intro a ha b hb
    simp only [List.map_cons, List.map_nil, List.mem_singleton] at hb
    rintro rfl
    exact fresh (hb ▸ ha)
  not_reference := by
    intro x hx
    rcases List.mem_append.1 hx with hx | hx
    · exact t.not_reference x hx
    · rw [List.mem_singleton.1 hx]; exact solid

/-- Registers a shape unless it is a reference or registered already. -/
def insert (t : Table) (s : Shape) : Except Unsupported Table :=
  if solid : s.isReference = false then
    match found : t.get? s.key with
    | none => .ok (t.push s (get?_eq_none_iff.1 found) solid)
    | some other => if other = s then .ok t else .error (.clashingKey s.key)
  else .ok t

/-! ## Storage -/

/-- Whether decoded values of a shape live in memory; `none` for a reference without a shape. -/
def needsMemory? (t : Table) (s : Shape) : Option Bool :=
  (t.resolve? s).map fun
    | .primitive p => p.needsMemory
    | .simpleEnum .. => false
    | _ => true

end Table

end SolidityWire
