/-
The nodes that tokens describe: the grammar of documents, read from left to right. Where the grammar
lets a node be left out, it is null.
-/
import SolidityWire.Yaml.Node
import SolidityWire.Yaml.Scalar.Content
import SolidityWire.Yaml.Token

namespace SolidityWire.Yaml

/-! ## Reading tokens -/

/-- The tokens to come, and what has been read: the nodes, the anchors with their nodes, the
collections that are still open, and whether an alias stood for one of these. -/
structure Composing where
  tokens : List Token
  nodes : Nodes := #[]
  anchors : List (String × NodeId) := []
  opened : List NodeId := []
  cyclic : Bool := false

/-- A reader of tokens. -/
abbrev TokenReader := StateT Composing (Except Fault)

namespace TokenReader

/-- Refuses what comes. -/
def reject {α : Type} (v : Violation) : TokenReader α :=
  throw (.violation v)

/-- The next token. A fault that comes next stops the reading. -/
def peek : TokenReader Token := do
  match (← get).tokens with
  | [] => return .finish
  | .fault f :: _ => throw f
  | t :: _ => return t

/-- Goes past the next token. -/
def drop : TokenReader Unit :=
  modify fun s => { s with tokens := s.tokens.drop 1 }

/-- Goes past the next token, which has to be the given one. -/
def expect (t : Token) : TokenReader Unit := do
  if (← peek) = t then drop else reject .unexpectedToken

/-- Takes up a node under the next number. -/
def add (n : Node) : TokenReader NodeId := do
  let id := (← get).nodes.size
  modify fun s => { s with nodes := s.nodes.push n }
  return id

/-- Reads a node, unless it is left out before one of the given tokens. -/
def orAbsent (stops : List Token) (read : TokenReader NodeId) : TokenReader NodeId := do
  if stops.contains (← peek) then add .absent else read

/-- Reads what follows the sign for a value; without the sign the value is left out. -/
def valueOrAbsent (stops : List Token) (read : TokenReader NodeId) : TokenReader NodeId := do
  if (← peek) = .value then
    drop
    orAbsent stops read
  else add .absent

end TokenReader

open TokenReader

/-! ## Anchors and tags -/

/-- The node under an anchor. -/
def readAlias (name : String) : TokenReader NodeId := do
  match (← get).anchors.lookup name with
  | some id =>
    modify fun s => { s with cyclic := s.cyclic || s.opened.contains id }
    return id
  | none => reject (.undefinedAlias name)

/-- Takes up a node under an anchor, which must be new. -/
def addAnchored (anchor : Option String) (n : Node) : TokenReader NodeId := do
  match anchor with
  | none => add n
  | some name =>
    if ((← get).anchors.lookup name).isSome then reject (.repeatedAnchor name)
    let id ← add n
    modify fun s => { s with anchors := (name, id) :: s.anchors }
    return id

/-- Reads a collection. It is taken up before its content is read, which may refer to it. -/
def enclose (anchor : Option String) (tag : String) (read : TokenReader Content) :
    TokenReader NodeId := do
  let id ← addAnchored anchor ⟨tag, .sequence []⟩
  let around := (← get).opened
  if Limit.collections ≤ around.length then throw (.content (.beyond .nesting))
  modify fun s => { s with opened := id :: around }
  let content ← read
  modify fun s => { s with opened := around, nodes := s.nodes.setContent id content }
  return id

/-- What the handles of tags stand for. -/
abbrev Handles := List (String × String)

/-- The handles that every document has. -/
def commonHandles : Handles :=
  [("!", "!"), ("!!", coreTag "")]

/-- The full text of a tag. -/
def fullTag (handles : Handles) (handle : Option String) (suffix : String) : TokenReader String :=
  match handle with
  | none => return suffix
  | some h =>
    match handles.lookup h with
    | some expansion => return expansion ++ suffix
    | none => reject (.undefinedHandle h)

/-- Reads the anchor and the tag of a node, in either order. -/
def readProperties (handles : Handles) : TokenReader (Option String × Option String) := do
  match ← peek with
  | .anchor name =>
    drop
    match ← peek with
    | .tag handle suffix =>
      drop
      return (some name, some (← fullTag handles handle suffix))
    | _ => return (some name, none)
  | .tag handle suffix =>
    drop
    match ← peek with
    | .anchor name =>
      drop
      return (some name, some (← fullTag handles handle suffix))
    | _ => return (none, some (← fullTag handles handle suffix))
  | _ => return (none, none)

/-- The tag of a scalar: quoted ones are texts unless they say otherwise; an exclamation mark asks
for the tag by form. -/
def scalarTag (plain : Bool) (tag : Option String) (text : String) : String :=
  match tag with
  | none => if plain then implicitTag text else textTag
  | some t => if t = "!" then implicitTag text else t

/-- The tag of a collection. -/
def collectionTag (usual : String) (tag : Option String) : String :=
  match tag with
  | none => usual
  | some t => if t = "!" then usual else t

/-! ## Nodes -/

mutual

/-- Reads a node. Blocks may begin where `inBlock` says so, and the entries of a sequence may stand
at the column of the mapping around it where `loose` says so. -/
def readNode (handles : Handles) : (fuel : Nat) → (inBlock loose : Bool) → TokenReader NodeId
  | 0, _, _ => reject .unexpectedToken
  | fuel + 1, inBlock, loose => do
    if let .alias name ← peek then
      drop
      readAlias name
    else
      let (anchor, tag) ← readProperties handles
      let t ← peek
      if loose && t = .blockEntry then
        enclose anchor (collectionTag sequenceTag tag) do
          return .sequence (← readLoose handles fuel)
      else if t = .flowSequence then
        enclose anchor (collectionTag sequenceTag tag) do
          drop
          return .sequence (← readItems handles fuel true)
      else if t = .flowMapping then
        enclose anchor (collectionTag mappingTag tag) do
          drop
          return .mapping (← readPairs handles fuel true)
      else if inBlock && t = .blockSequence then
        enclose anchor (collectionTag sequenceTag tag) do
          drop
          return .sequence (← readBlockItems handles fuel)
      else if inBlock && t = .blockMapping then
        enclose anchor (collectionTag mappingTag tag) do
          drop
          return .mapping (← readBlockPairs handles fuel)
      else
        match t with
        | .scalar plain text =>
          let id ← addAnchored anchor ⟨scalarTag plain tag text, .scalar text⟩
          drop
          return id
        | _ =>
          if anchor.isSome || tag.isSome then
            addAnchored anchor ⟨scalarTag true tag "", .scalar ""⟩
          else reject .unexpectedToken

/-- Reads the items of a sequence in a block of its own. -/
def readBlockItems (handles : Handles) : (fuel : Nat) → TokenReader (List NodeId)
  | 0 => reject .unexpectedToken
  | fuel + 1 => do
    if (← peek) = .blockEntry then
      drop
      let n ← orAbsent [.blockEntry, .blockEnd] (readNode handles fuel true false)
      return n :: (← readBlockItems handles fuel)
    else
      expect .blockEnd
      return []

/-- Reads the items of a sequence that has no block of its own. -/
def readLoose (handles : Handles) : (fuel : Nat) → TokenReader (List NodeId)
  | 0 => reject .unexpectedToken
  | fuel + 1 => do
    if (← peek) = .blockEntry then
      drop
      let n ← orAbsent [.blockEntry, .key, .value, .blockEnd] (readNode handles fuel true false)
      return n :: (← readLoose handles fuel)
    else return []

/-- Reads the entries of a mapping in a block. -/
def readBlockPairs (handles : Handles) : (fuel : Nat) → TokenReader (List (NodeId × NodeId))
  | 0 => reject .unexpectedToken
  | fuel + 1 => do
    if (← peek) = .key then
      drop
      let k ← orAbsent [.key, .value, .blockEnd] (readNode handles fuel true true)
      let v ← valueOrAbsent [.key, .value, .blockEnd] (readNode handles fuel true true)
      return (k, v) :: (← readBlockPairs handles fuel)
    else
      expect .blockEnd
      return []

/-- Reads the items of a sequence in brackets; a key with its value is a mapping of one entry. -/
def readItems (handles : Handles) : (fuel : Nat) → (isFirst : Bool) → TokenReader (List NodeId)
  | 0, _ => reject .unexpectedToken
  | fuel + 1, isFirst => do
    if (← peek) = .flowSequenceEnd then
      drop
      return []
    if !isFirst then expect .flowEntry
    match ← peek with
    | .flowSequenceEnd =>
      drop
      return []
    | .key =>
      let n ← enclose none mappingTag do
        drop
        let k ← orAbsent [.value, .flowEntry, .flowSequenceEnd] (readNode handles fuel false false)
        let v ← valueOrAbsent [.flowEntry, .flowSequenceEnd] (readNode handles fuel false false)
        return .mapping [(k, v)]
      return n :: (← readItems handles fuel false)
    | _ =>
      let n ← readNode handles fuel false false
      return n :: (← readItems handles fuel false)

/-- Reads the entries of a mapping in braces; a node that is no key has no value. -/
def readPairs (handles : Handles) :
    (fuel : Nat) → (isFirst : Bool) → TokenReader (List (NodeId × NodeId))
  | 0, _ => reject .unexpectedToken
  | fuel + 1, isFirst => do
    if (← peek) = .flowMappingEnd then
      drop
      return []
    if !isFirst then expect .flowEntry
    match ← peek with
    | .flowMappingEnd =>
      drop
      return []
    | .key =>
      drop
      let k ← orAbsent [.value, .flowEntry, .flowMappingEnd] (readNode handles fuel false false)
      let v ← valueOrAbsent [.flowEntry, .flowMappingEnd] (readNode handles fuel false false)
      return (k, v) :: (← readPairs handles fuel false)
    | _ =>
      let k ← readNode handles fuel false false
      let v ← add .absent
      return (k, v) :: (← readPairs handles fuel false)

end

/-! ## Documents -/

/-- Reads directives: at most one version, which has to be the first major one, and handles that
differ. -/
def readDirectives : (fuel : Nat) → (versioned : Bool) → Handles → TokenReader Handles
  | 0, _, handles => return handles
  | fuel + 1, versioned, handles => do
    match ← peek with
    | .directive d =>
      drop
      match d with
      | .version major =>
        if versioned then reject .repeatedDirective
        if major ≠ 1 then reject .badVersion
        readDirectives fuel true handles
      | .handle name expansion =>
        if (handles.lookup name).isSome then reject .repeatedDirective
        readDirectives fuel versioned ((name, expansion) :: handles)
      | .other => readDirectives fuel versioned handles
    | _ => return handles

/-- Goes past the markers of a document's end; nothing else may follow. -/
def readEnd : (fuel : Nat) → TokenReader Unit
  | 0 => reject .severalDocuments
  | fuel + 1 => do
    match ← peek with
    | .documentEnd =>
      drop
      readEnd fuel
    | .finish => return ()
    | _ => reject .severalDocuments

/-- Reads the content of a document behind its marker. -/
def readContent (handles : Handles) (fuel : Nat) : TokenReader NodeId := do
  match ← peek with
  | .directive _ | .documentStart | .documentEnd | .finish => add .absent
  | _ => readNode handles fuel true false

/-- Reads the only document of a text, if there is one. -/
def readDocument (fuel : Nat) : TokenReader (Option NodeId) := do
  match ← peek with
  | .finish => return none
  | .directive _ | .documentStart =>
    let handles ← readDirectives fuel false []
    expect .documentStart
    let id ← readContent (handles ++ commonHandles) fuel
    readEnd fuel
    return some id
  | _ =>
    let id ← readNode commonHandles fuel true false
    readEnd fuel
    return some id

/-- The document that tokens describe; `none` for a text without one. -/
def Graph.ofTokens (tokens : List Token) : Except Fault (Option Graph) := do
  let (root, s) ← (readDocument (2 * tokens.length + 4)).run { tokens }
  return root.map fun root => ⟨s.nodes, root, s.cyclic⟩

end SolidityWire.Yaml
