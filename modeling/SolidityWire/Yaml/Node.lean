/-
Nodes: what a text describes. The nodes of a document are numbered and a collection tells what is
inside it by numbers, so that an alias is the node that it stands for, and a collection may contain
itself.
-/
import SolidityWire.Yaml.Tag

namespace SolidityWire.Yaml

/-- The number of a node in its document. -/
abbrev NodeId := Nat

/-- What a node holds. -/
inductive Content where
  | scalar (text : String)
  | sequence (items : List NodeId)
  | mapping (entries : List (NodeId × NodeId))
  deriving DecidableEq, Inhabited, Repr

/-- A node: its tag says what kind of value it has. -/
structure Node where
  tag : String
  content : Content
  deriving DecidableEq, Inhabited, Repr

/-- The node of what is left out. -/
def Node.absent : Node :=
  ⟨nullTag, .scalar ""⟩

/-- The nodes of a document by their numbers. -/
abbrev Nodes := Array Node

namespace Nodes

/-- The node with a number. -/
def node (ns : Nodes) (id : NodeId) : Node :=
  ns.getD id .absent

/-- The tag of the node with a number. -/
def tag (ns : Nodes) (id : NodeId) : String :=
  (ns.node id).tag

/-- The entries of the node with a number, if it is a mapping. -/
def entries? (ns : Nodes) (id : NodeId) : Option (List (NodeId × NodeId)) :=
  match (ns.node id).content with
  | .mapping entries => some entries
  | _ => none

/-- The nodes with another tag for one of them. -/
def setTag (ns : Nodes) (id : NodeId) (tag : String) : Nodes :=
  ns.setIfInBounds id { ns.node id with tag }

/-- The nodes with another content for one of them. -/
def setContent (ns : Nodes) (id : NodeId) (content : Content) : Nodes :=
  ns.setIfInBounds id { ns.node id with content }

end Nodes

/-- A document: its nodes, the one that holds all others, and whether there is a collection that
contains itself. -/
structure Graph where
  nodes : Nodes
  root : NodeId
  cyclic : Bool
  deriving Inhabited

end SolidityWire.Yaml
