/-
The search for a shape that depends on itself: from each shape, level by level along dependencies,
until the shape comes back, no new key turns up, or a key has no shape.
-/
import SolidityWire.Shape.Table

namespace SolidityWire

namespace Table

/-- What the search from one key finds. -/
inductive Search where
  | cycle
  | noCycle
  | missing (key : String)
  deriving DecidableEq, Inhabited, Repr

/-- The keys that the shapes under the given keys depend on, or the first key without a shape. -/
def dependenciesOf (t : Table) : List String → Except String (List String)
  | [] => .ok []
  | key :: rest =>
    match t.get? key with
    | none => .error key
    | some s => (dependenciesOf t rest).map (s.dependencies ++ ·)

/-- Searches from a level of keys; `visited` holds the levels before, and `levels` bounds how many
more there can be. -/
def searchFrom (t : Table) (start : String) :
    (levels : Nat) → (visited level : List String) → Search
  | 0, _, _ => .noCycle
  | levels + 1, visited, level =>
    -- The start is not among what was visited before it comes back, so no filter hides a way to it.
    if level.isEmpty then .noCycle
    else if level.contains start then .cycle
    else
      match t.dependenciesOf level with
      | .error key => .missing key
      | .ok next =>
        let visited := level ++ visited
        searchFrom t start levels visited (next.eraseDups.filter fun k => !visited.contains k)

/-- Searches from a registered shape; each level but the last has a new key of the table. -/
def searchAt (t : Table) (s : Shape) : Search :=
  t.searchFrom s.key (t.size + 2) [] s.dependencies.eraseDups

/-- The first shape that depends on itself, unless a key without a shape is met before. -/
def firstCycle (t : Table) : List Shape → Except String (Option String)
  | [] => .ok none
  | s :: rest =>
    match t.searchAt s with
    | .cycle => .ok (some s.key)
    | .missing key => .error key
    | .noCycle => firstCycle t rest

/-- The key of a shape that depends on itself, if there is one; the error is a dependency that no
shape of the table has as its key. -/
def findCycle (t : Table) : Except String (Option String) :=
  t.firstCycle t.shapes

end Table

end SolidityWire
