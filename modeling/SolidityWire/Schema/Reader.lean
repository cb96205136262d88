/-
Reading a registry from a loaded document: null for an empty registry, or a mapping from container
names to nodes with one tag each. A node that contains itself is read as far as it is asked for.
-/
import SolidityWire.Schema.Basic
import SolidityWire.Schema.Fault
import SolidityWire.Value.Labelled

namespace SolidityWire

/-! ## Nodes -/

/-- The tag and the content of a node: the only entry of a mapping. -/
def singleEntry (what : String) (node : Value) : Except SchemaFault (String × Value) :=
  match node.opened with
  | .dict [(.text tag, content)] => .ok (tag, content)
  | .dict [(tag, _)] => .error (.tagNotText what tag)
  | _ => .error (.notSingleEntry what node)

/-- The items of a list node. -/
def listItems (what : String) (node : Value) : Except SchemaFault (List Value) :=
  match node.opened with
  | .list items => .ok items
  | _ => .error (.notList what node)

/-- The contents of two entries under the given names, in any order, if there are no others. -/
def twoEntries? (first second : String) (node : Value) : Option (Value × Value) :=
  match node.opened with
  | .dict [(.text m, a), (.text n, b)] =>
    if m = first ∧ n = second then some (a, b)
    else if m = second ∧ n = first then some (b, a)
    else none
  | _ => none

/-- The size of an array node. -/
def arraySize : Value → Except SchemaFault Nat
  | .integer (.ofNat n) => .ok n
  | size => .error (.badArraySize size)

/-- The text that a node is shown as. -/
def shownText (node : Value) : Except SchemaFault String :=
  if node.isTooLong then .error (.beyond .digits) else .ok node.display

/-! ## Formats -/

/-- Reads what stands under the tag of a format: the formats in it by `part`, and those that are items of a tuple by
`item`. -/
def Format.readTagged (part item : Value → Except SchemaFault Format) (tag : String) (content : Value) :
    Except SchemaFault Format := do
  match tag with
  | "TYPENAME" =>
    match content with
    | .text name => return .typeName name
    | node => throw (.typeNameNotText node)
  | "OPTION" => return .option (← part content)
  | "SEQ" => return .sequence (← part content)
  | "MAP" =>
    match twoEntries? "KEY" "VALUE" content with
    | some (key, value) => return .map (← part key) (← part value)
    | none => throw (.badMapEntries content)
  | "TUPLE" => return .tuple (← (← listItems "TUPLE" content).mapM item)
  | "TUPLEARRAY" =>
    match twoEntries? "CONTENT" "SIZE" content with
    | some (element, size) => do
      let n ← arraySize size
      return .array (← part element) n
    | none => throw (.badArrayEntries content)
  | "VARIABLE" => return .variable (← shownText content)
  | tag => throw (.unknownFormatTag tag)

/-- Reads a format, given how to read the formats inside it. -/
def Format.readWith (part item : Value → Except SchemaFault Format) (node : Value) : Except SchemaFault Format :=
  match node with
  | .text name =>
    match Format.ofName? name with
    | some f => .ok f
    | none => .error (.unknownFormat name)
  | node => do
    let (tag, content) ← singleEntry "format" node
    Format.readTagged part item tag content

/-- Reads a format in which at most `depth` formats stand inside one another, where one inside a tuple counts
twice. -/
def Format.read : (depth : Nat) → Value → Except SchemaFault Format
  | 0, _ => .error (.beyond .nesting)
  | 1, node => Format.readWith (fun _ => .error (.beyond .nesting)) (fun _ => .error (.beyond .nesting)) node
  | depth + 2, node => Format.readWith (Format.read (depth + 1)) (Format.read depth) node

/-- Reads a format. -/
def Format.ofValue (node : Value) : Except SchemaFault Format :=
  Format.read Limit.formats node

/-- Reads several formats, in order. -/
def Format.ofValues (nodes : List Value) : Except SchemaFault (List Format) :=
  nodes.mapM Format.ofValue

/-- Reads the format of a node that stands under a name. -/
def readNamed (what : String) (node : Value) : Except SchemaFault (String × Format) := do
  let (name, content) ← singleEntry what node
  return (name, ← Format.ofValue content)

/-- Reads a list of named formats. -/
def readFields (what : String) (node : Value) : Except SchemaFault (List (String × Format)) := do
  (← listItems what node).mapM (readNamed (what ++ " field"))

/-! ## Variants -/

/-- Reads what a variant carries. -/
def VariantFormat.ofValue (node : Value) : Except SchemaFault VariantFormat := do
  if let .text "UNIT" := node then
    return .unit
  let (tag, content) ← singleEntry "variant" node
  match tag with
  | "NEWTYPE" => return .newType (← Format.ofValue content)
  | "TUPLE" => return .tuple (← Format.ofValues (← listItems "TUPLE variant" content))
  | "STRUCT" => return .struct (← readFields "STRUCT variant" content)
  | "VARIABLE" => return .variable (← shownText content)
  | tag => throw (.unknownVariantTag tag)

/-- Reads one entry of the variants of an enumeration. -/
def IndexedVariant.ofEntry (entry : Value × Value) : Except SchemaFault IndexedVariant := do
  match entry.1 with
  | .integer index =>
    let (name, content) ← singleEntry "variant" entry.2
    return ⟨index, name, ← VariantFormat.ofValue content⟩
  | key => throw (.indexNotInteger key)

/-- Puts a variant before the first one with a greater index. -/
def insertVariant (v : IndexedVariant) : List IndexedVariant → List IndexedVariant
  | [] => [v]
  | w :: ws => if v.index < w.index then v :: w :: ws else w :: insertVariant v ws

/-- The variants in the order of their indices. -/
def sortVariants (vs : List IndexedVariant) : List IndexedVariant :=
  vs.foldl (fun sorted v => insertVariant v sorted) []

/-! ## Containers -/

/-- Reads a container. -/
def Container.ofValue (node : Value) : Except SchemaFault Container := do
  if let .text "UNITSTRUCT" := node then
    return .unitStruct
  let (tag, content) ← singleEntry "container" node
  match tag with
  | "NEWTYPESTRUCT" => return .newTypeStruct (← Format.ofValue content)
  | "TUPLESTRUCT" => return .tupleStruct (← Format.ofValues (← listItems "TUPLESTRUCT" content))
  | "STRUCT" => return .struct (← readFields "STRUCT" content)
  | "ENUM" =>
    match content.opened with
    | .dict entries => return .enum (sortVariants (← entries.mapM IndexedVariant.ofEntry))
    | _ => throw (.variantsNotMapping content)
  | tag => throw (.unknownContainerTag tag)

/-- Puts a fault under the name of the container in which it was found. -/
def underName (name : String) (r : Except SchemaFault Container) : Except SchemaFault Container :=
  match r with
  | .ok c => .ok c
  -- A limit that is hit is no fault of the document, and is not put under a name.
  | .error (.beyond l) => .error (.beyond l)
  | .error fault => .error (.inContainer name fault)

/-- Reads a container under its name. -/
def readContainer (entry : Value × Value) : Except SchemaFault (String × Container) := do
  match entry.1 with
  | .text name => return (name, ← underName name (Container.ofValue entry.2))
  | key => throw (.containerNameNotText key)

/-- Reads a registry from a document. -/
def Registry.ofValue (document : Value) : Except SchemaFault Registry :=
  match document.opened with
  | .null => .ok []
  | .dict entries => entries.mapM readContainer
  | _ => .error .documentNotMapping

end SolidityWire
