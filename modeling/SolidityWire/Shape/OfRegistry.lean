/-
The table of a registry: every container lowered in order, and no shape depending on itself or on a
key without a shape.
-/
import SolidityWire.Reported
import SolidityWire.Shape.Cycles
import SolidityWire.Shape.Lowering

namespace SolidityWire

/-- Lowers the containers of a registry, without looking at how the shapes depend on each other. -/
def Registry.register (r : Registry) : Reported Table :=
  let (table, notices, result) := Table.empty.carryOut r.plan
  ⟨notices, match result with
    | .ok () => .ok table
    | .error u => .error (.ofUnsupported u)⟩

/-- Refuses a table in which a shape depends on itself or on a key without a shape. -/
def Table.checkDependencies (t : Table) : Reported Unit :=
  match t.findCycle with
  | .error name => ⟨[], .error (.unresolved name)⟩
  | .ok (some key) => ⟨[.selfDependent key], .error .cyclic⟩
  | .ok none => ⟨[], .ok ()⟩

/-- The table of a registry. -/
def Registry.lower (r : Registry) : Reported Table := do
  let table ← r.register
  table.checkDependencies
  Reported.report (.lowered r.length table.size)
  return table

end SolidityWire
