/-
The value of a document, as a tree: a node stands at every place where an alias leads to it. If a
collection contains itself, all of them are labelled, and a label stands again where the collection
is inside itself.
-/
import SolidityWire.Yaml.Node.Made

namespace SolidityWire.Yaml

/-- The values of collections, as far as they are known. -/
abbrev Known := Array (Option Value)

/-- The value of what a node has become, inside the collections of `path`, which are at most as many
as `fuel`. -/
def valueOf (fillings : Array Filling) (cyclic : Bool) :
    (fuel : Nat) → (path : List NodeId) → Made → StateM Known Value
  | _, _, .value v => return v
  | _, _, .nan _ => return .float .nan
  | 0, _, .collection id => return .again id
  | fuel + 1, path, .collection id => do
    if path.contains id then return .again id
    if let some v := (← get).getD id none then return v
    let inside := valueOf fillings cyclic fuel (id :: path)
    let inPair (entry : Made × Made) : StateM Known (Value × Value) := do
      let k ← inside entry.1
      return (k, ← inside entry.2)
    let v ← match fillings.getD id default with
      | .list items => Value.list <$> items.mapM inside
      | .pairs pairs =>
        (fun vs => Value.list (vs.map fun (a, b) => .tuple [a, b])) <$> pairs.mapM inPair
      | .set keys => Value.set <$> keys.mapM inside
      | .dict entries => Value.dict <$> entries.mapM inPair
    if cyclic then return .labelled id v
    modify fun known => known.setIfInBounds id (some v)
    return v

/-- The value of a document. -/
def Graph.value (g : Graph) : Except Fault Value := do
  let (m, fillings) ← g.make
  let size := g.nodes.size
  return ((valueOf fillings g.cyclic (size + 1) [] m).run (Array.replicate size none)).1

end SolidityWire.Yaml
