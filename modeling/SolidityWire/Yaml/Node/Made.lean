/-
What nodes become. A scalar becomes its value at once; a collection is made empty and gets its
content when all collections that were made before it have theirs. So a collection may be inside
itself, and of several faults the one nearest to the root counts.
-/
import SolidityWire.Yaml.Node
import SolidityWire.Yaml.Scalar.Content

namespace SolidityWire.Yaml

/-! ## Types -/

/-- What a node has become. Two values that are no numbers are the same only as one object, which is
a node's own or, without a node, the one that the word for it always means. -/
inductive Made where
  | value (v : Value)
  | nan (object : Option NodeId)
  | collection (id : NodeId)
  deriving Inhabited

/-- Whether two keys of a mapping are the same; a collection is no key. -/
def Made.sameKey : Made → Made → Bool
  | value a, value b => a.sameKey b
  | nan a, nan b => a == b
  | _, _ => false

/-- The content of a collection. -/
inductive Filling where
  | list (items : List Made)
  | pairs (pairs : List (Made × Made))
  | set (keys : List Made)
  | dict (entries : List (Made × Made))
  deriving Inhabited

/-- The nodes with what they have become: the fillings of collections, and the collections that
wait for theirs, the latest first. -/
structure Making where
  nodes : Nodes
  made : Array (Option Made)
  fillings : Array Filling
  waiting : List NodeId := []

/-- A computation on nodes and what they become. -/
abbrev Maker := StateT Making (Except Fault)

/-! ## Scalars -/

/-- The text of a node where a scalar is asked for: a mapping stands for its default value, in a
chain of at most `fuel` mappings. -/
def scalarText (ns : Nodes) (tag : String) : (fuel : Nat) → NodeId → Except Fault String
  | 0, _ => .error (.content (.beyond .nesting))
  | fuel + 1, id =>
    match (ns.node id).content with
    | .scalar text => .ok text
    | .sequence _ => refuse (.wrongKind tag)
    | .mapping entries =>
      match entries.find? fun (k, _) => ns.tag k = defaultTag with
      | some (_, v) => scalarText ns tag fuel v
      | none => refuse (.wrongKind tag)

/-- Whether the node is a scalar. -/
def isScalarNode (ns : Nodes) (id : NodeId) : Bool :=
  match (ns.node id).content with
  | .scalar _ => true
  | _ => false

/-- What a node becomes under the tag of a scalar. -/
def madeScalar (ns : Nodes) (tag : String) (id : NodeId) : Except Fault Made := do
  let text ← scalarText ns tag (ns.size + 1) id
  if tag = timestampTag ∧ !isScalarNode ns id then throw (.content .timestampNotScalar)
  match ← scalarValue tag text with
  | .float .nan => return .nan (if isNanWord text then none else some id)
  | v => return .value v

/-! ## Merging -/

/-- The first entry with a merge key: the entries before it, its value, and the entries behind it.
-/
def splitMerge? (ns : Nodes) : List (NodeId × NodeId) →
    Option (List (NodeId × NodeId) × NodeId × List (NodeId × NodeId))
  | [] => none
  | (k, v) :: rest =>
    if ns.tag k = mergeTag then some ([], v, rest)
    else (splitMerge? ns rest).map fun (front, value, back) => ((k, v) :: front, value, back)

/-- Takes the sign for a default value as a text where it is a key. -/
def settleKeys (ns : Nodes) (entries : List (NodeId × NodeId)) : Nodes :=
  entries.foldl
    (fun ns (k, _) => if ns.tag k = defaultTag then ns.setTag k textTag else ns) ns

/-- Carries out the merges of a mapping one after the other; what they bring in comes before the
entries of its own. Every step takes a merge key away, so that `fuel` need only be greater than the
number of these. -/
def mergeEntries : (fuel : Nat) → NodeId → (brought : List (NodeId × NodeId)) →
    Maker (List (NodeId × NodeId))
  | 0, _, _ => throw (.content (.beyond .nesting))
  | fuel + 1, id, brought => do
    let s ← get
    match s.nodes.entries? id with
    | none => throw (.violation .badMerge)
    | some entries =>
      match splitMerge? s.nodes entries with
      | none =>
        modify fun s => { s with nodes := settleKeys s.nodes entries }
        if brought.isEmpty then return entries
        let all := brought ++ entries
        modify fun s => { s with nodes := s.nodes.setContent id (.mapping all) }
        return all
      | some (front, value, back) =>
        modify fun s => { s with nodes := s.nodes.setContent id (.mapping (front ++ back)) }
        match (s.nodes.node value).content with
        | .sequence items =>
          let parts ← items.mapM fun item => mergeEntries fuel item []
          mergeEntries fuel id (brought ++ parts.reverse.flatten)
        | _ =>
          let part ← mergeEntries fuel value []
          mergeEntries fuel id (brought ++ part)

/-- The number of all entries of mappings. -/
def entryCount (ns : Nodes) : Nat :=
  ns.foldl (fun count n => match n.content with
    | .mapping entries => count + entries.length
    | _ => count) 0

/-! ## Collections -/

/-- Whether values under the tag are collections. -/
def isCollectionTag (tag : String) : Bool :=
  [sequenceTag, mappingTag, setTag, orderedTag, pairsTag].contains tag

/-- Keeps what a node has become. -/
def keep (id : NodeId) (m : Made) : Maker Made := do
  modify fun s => { s with made := s.made.setIfInBounds id (some m) }
  return m

/-- What a node becomes, which is the same at every place where it stands. -/
def make (id : NodeId) : Maker Made := do
  let s ← get
  match s.made.getD id none with
  | some m => return m
  | none =>
    let tag := s.nodes.tag id
    if isCollectionTag tag then
      modify fun s => { s with waiting := id :: s.waiting }
      keep id (.collection id)
    else if isScalarTag tag then keep id (← madeScalar s.nodes tag id)
    else throw (.violation (.unknownTag tag))

/-- Sets the value of a key: a key that is there keeps its place. -/
def putMade (key value : Made) : List (Made × Made) → List (Made × Made)
  | [] => [(key, value)]
  | (k, v) :: rest =>
    if k.sameKey key then (k, value) :: rest else (k, v) :: putMade key value rest

/-- The entries of a mapping behind those that are there. -/
def makeEntries (done : List (Made × Made)) :
    List (NodeId × NodeId) → Maker (List (Made × Made))
  | [] => return done
  | (k, v) :: rest => do
    let key ← make k
    if let .collection _ := key then throw (.violation .unhashableKey)
    let value ← make v
    makeEntries (putMade key value done) rest

/-- The entries of a node under the tag of a mapping or a set. -/
def makeMapping (tag : String) (id : NodeId) : Maker (List (Made × Made)) := do
  let ns := (← get).nodes
  if (ns.entries? id).isNone then throw (.violation (.wrongKind tag))
  makeEntries [] (← mergeEntries (entryCount ns + 1) id [])

/-- The pair that an item of a list of pairs stands for: a mapping of one entry. -/
def makePair (tag : String) (item : NodeId) : Maker (Made × Made) := do
  match (← get).nodes.entries? item with
  | some [(k, v)] =>
    let key ← make k
    return (key, ← make v)
  | _ => throw (.violation (.wrongKind tag))

/-- The content of a collection. -/
def makeFilling (id : NodeId) : Maker Filling := do
  let ns := (← get).nodes
  let tag := ns.tag id
  if tag = mappingTag then return .dict (← makeMapping tag id)
  else if tag = setTag then return .set ((← makeMapping tag id).map Prod.fst)
  else
    match (ns.node id).content with
    | .sequence items =>
      if tag = sequenceTag then return .list (← items.mapM make)
      else return .pairs (← items.mapM (makePair tag))
    | _ => throw (.violation (.wrongKind tag))

/-- Fills a collection. -/
def fill (id : NodeId) : Maker Unit := do
  let filling ← makeFilling id
  modify fun s => { s with fillings := s.fillings.setIfInBounds id filling }

/-- Fills the collections that wait, then those that were made meanwhile, and so on. -/
def fillWaiting : (fuel : Nat) → Maker Unit
  | 0 => return ()
  | fuel + 1 => do
    let ids := (← get).waiting.reverse
    if ids.isEmpty then return ()
    modify fun s => { s with waiting := [] }
    ids.forM fill
    fillWaiting fuel

/-- What the root of a document becomes, and the fillings of all collections. -/
def Graph.make (g : Graph) : Except Fault (Made × Array Filling) := do
  let size := g.nodes.size
  let start : Making :=
    { nodes := g.nodes, made := Array.replicate size none,
      fillings := Array.replicate size (.list []) }
  let run : Maker Made := do
    let m ← Yaml.make g.root
    fillWaiting (size + 1)
    return m
  let (m, s) ← run.run start
  return (m, s.fillings)

end SolidityWire.Yaml
