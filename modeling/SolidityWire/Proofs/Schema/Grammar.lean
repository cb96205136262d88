/-
The grammar of registry documents: which nodes stand for which formats, variants, containers and registries. The two
entries of a map or an array stand in any order, and so do the variants of an enumeration, which are told apart by
their indices. What the name of a variable may be written as is left open.
-/
import Mathlib.Data.List.Forall2
import SolidityWire.Proofs.Schema.Occurs
import SolidityWire.Value.Labelled
import SolidityWire.Value.Literal

namespace SolidityWire

namespace Value

/-! ## Nodes -/

/-- The node is a mapping of one entry. -/
def IsEntry (node : Value) (tag : String) (content : Value) : Prop :=
  node.opened = .dict [(.text tag, content)]

/-- The node is a mapping of two entries, in either order. -/
def IsPair (node : Value) (first second : String) (a b : Value) : Prop :=
  node.opened = .dict [(.text first, a), (.text second, b)] ∨ node.opened = .dict [(.text second, b), (.text first, a)]

/-- The node is a list, and its items stand for the parts one by one. -/
def IsListOf {α : Type} (isPart : Value → α → Prop) (node : Value) (parts : List α) : Prop :=
  ∃ items, node.opened = .list items ∧ List.Forall₂ isPart items parts

/-! ## Formats -/

section Grammar

variable (shown : Value → Prop)

/-- Under the tag, the node stands for a format that is built of other formats. -/
@[mk_iff]
inductive IsTagged (isFormat : Value → Format → Prop) : String → Value → Format → Prop
  | typeName {name : String} : IsTagged isFormat "TYPENAME" (.text name) (.typeName name)
  | option {node : Value} {f : Format} : isFormat node f → IsTagged isFormat "OPTION" node (.option f)
  | sequence {node : Value} {f : Format} : isFormat node f → IsTagged isFormat "SEQ" node (.sequence f)
  | map {node a b : Value} {key value : Format} : node.IsPair "KEY" "VALUE" a b → isFormat a key → isFormat b value →
    IsTagged isFormat "MAP" node (.map key value)
  | tuple {node : Value} {fs : List Format} {items : List Value} : node.opened = .list items →
    List.Forall₂ isFormat items fs → IsTagged isFormat "TUPLE" node (.tuple fs)
  | array {node element : Value} {size : Nat} {f : Format} : node.IsPair "CONTENT" "SIZE" element (.integer size) →
    isFormat element f → IsTagged isFormat "TUPLEARRAY" node (.array f size)
  | «variable» {node : Value} : shown node → IsTagged isFormat "VARIABLE" node (.variable node.display)

/-- The node stands for the format: it is the name of a type, or has one tag. -/
inductive IsFormat : Value → Format → Prop
  | name {name : String} {f : Format} : Format.ofName? name = some f → IsFormat (.text name) f
  | tagged {node content : Value} {tag : String} {f : Format} : node.IsEntry tag content →
    IsTagged shown IsFormat tag content f → IsFormat node f

/-- The node stands for the named format. -/
def IsField (node : Value) (field : String × Format) : Prop :=
  ∃ content, node.IsEntry field.1 content ∧ IsFormat shown content field.2

/-! ## Variants -/

/-- Under the tag, the node stands for what a variant carries. -/
@[mk_iff]
inductive IsTaggedVariant : String → Value → VariantFormat → Prop
  | newType {node : Value} {f : Format} : IsFormat shown node f → IsTaggedVariant "NEWTYPE" node (.newType f)
  | tuple {node : Value} {fs : List Format} : node.IsListOf (IsFormat shown) fs →
    IsTaggedVariant "TUPLE" node (.tuple fs)
  | struct {node : Value} {fields : List (String × Format)} : node.IsListOf (IsField shown) fields →
    IsTaggedVariant "STRUCT" node (.struct fields)
  | «variable» {node : Value} : shown node → IsTaggedVariant "VARIABLE" node (.variable node.display)

/-- The node stands for what a variant carries. -/
inductive IsVariant : Value → VariantFormat → Prop
  | unit : IsVariant (.text "UNIT") .unit
  | tagged {node content : Value} {tag : String} {vf : VariantFormat} : node.IsEntry tag content →
    IsTaggedVariant shown tag content vf → IsVariant node vf

/-- The entry stands for the variant: its key is the index, and its content has the name. -/
def IsIndexed (entry : Value × Value) (v : IndexedVariant) : Prop :=
  entry.1 = .integer v.index ∧ ∃ content, entry.2.IsEntry v.name content ∧ IsVariant shown content v.format

/-! ## Containers -/

/-- Under the tag, the node stands for the container. The variants of an enumeration are in the order of their
indices, whatever the order of the entries is. -/
@[mk_iff]
inductive IsTaggedContainer : String → Value → Container → Prop
  | newType {node : Value} {f : Format} : IsFormat shown node f →
    IsTaggedContainer "NEWTYPESTRUCT" node (.newTypeStruct f)
  | tuple {node : Value} {fs : List Format} : node.IsListOf (IsFormat shown) fs →
    IsTaggedContainer "TUPLESTRUCT" node (.tupleStruct fs)
  | struct {node : Value} {fields : List (String × Format)} : node.IsListOf (IsField shown) fields →
    IsTaggedContainer "STRUCT" node (.struct fields)
  | enum {node : Value} {entries : List (Value × Value)} {vs ws : List IndexedVariant} : node.opened = .dict entries →
    List.Forall₂ (IsIndexed shown) entries ws → vs.Perm ws → vs.Pairwise (fun v w => v.index < w.index) →
    IsTaggedContainer "ENUM" node (.enum vs)

/-- The node stands for the container. -/
inductive IsContainer : Value → Container → Prop
  | unit : IsContainer (.text "UNITSTRUCT") .unitStruct
  | tagged {node content : Value} {tag : String} {c : Container} : node.IsEntry tag content →
    IsTaggedContainer shown tag content c → IsContainer node c

/-- The document stands for the registry: it is null, or a mapping of containers under their names, in order. -/
inductive IsRegistry : Value → Registry → Prop
  | empty {document : Value} : document.opened = .null → IsRegistry document []
  | containers {document : Value} {entries : List (Value × Value)} {r : Registry} : document.opened = .dict entries →
    List.Forall₂ (fun entry named => entry.1 = .text named.1 ∧ IsContainer shown entry.2 named.2) entries r →
    IsRegistry document r

end Grammar

end Value

/-! ## Documents of registries -/

/-- The node of one entry. -/
def Value.entry (tag : String) (content : Value) : Value :=
  .dict [(.text tag, content)]

/-- The list of named nodes. -/
def Value.fields (fields : List (String × Value)) : Value :=
  .list (fields.map fun (name, content) => .entry name content)

mutual

/-- The node of a format. -/
def Format.node : Format → Value
  | primitive p => .text p.formatName
  | float32 => .text "F32"
  | float64 => .text "F64"
  | «variable» name => .entry "VARIABLE" (.text name)
  | typeName name => .entry "TYPENAME" (.text name)
  | option content => .entry "OPTION" content.node
  | sequence content => .entry "SEQ" content.node
  | map key value => .entry "MAP" (.dict [(.text "KEY", key.node), (.text "VALUE", value.node)])
  | tuple contents => .entry "TUPLE" (.list (Format.nodes contents))
  | array content size => .entry "TUPLEARRAY" (.dict [(.text "CONTENT", content.node), (.text "SIZE", .integer size)])
termination_by structural f => f

/-- The nodes of several formats. -/
def Format.nodes : List Format → List Value
  | [] => []
  | f :: fs => f.node :: Format.nodes fs
termination_by structural fs => fs

end

/-- The node of what a variant carries. -/
def VariantFormat.node : VariantFormat → Value
  | unit => .text "UNIT"
  | newType content => .entry "NEWTYPE" content.node
  | tuple contents => .entry "TUPLE" (.list (Format.nodes contents))
  | struct fields => .entry "STRUCT" (.fields (fields.map fun (name, f) => (name, f.node)))
  | «variable» name => .entry "VARIABLE" (.text name)

/-- The node of a container. -/
def Container.node : Container → Value
  | unitStruct => .text "UNITSTRUCT"
  | newTypeStruct content => .entry "NEWTYPESTRUCT" content.node
  | tupleStruct contents => .entry "TUPLESTRUCT" (.list (Format.nodes contents))
  | struct fields => .entry "STRUCT" (.fields (fields.map fun (name, f) => (name, f.node)))
  | enum variants => .entry "ENUM" (.dict (variants.map fun v => (.integer v.index, .entry v.name v.format.node)))

/-- The document of a registry. -/
def Registry.document (r : Registry) : Value :=
  .dict (r.map fun (name, c) => (.text name, c.node))

/-! ## Documents are in the grammar -/

section Documents

variable {shown : Value → Prop}

theorem Format.ofName?_formatName (p : Primitive) : Format.ofName? p.formatName = some (.primitive p) := by
  have hfloat : p.formatName ≠ "F32" ∧ p.formatName ≠ "F64" :=
    (by decide : ∀ p ∈ Primitive.all, p.formatName ≠ "F32" ∧ p.formatName ≠ "F64") p p.mem_all
  rw [ofName?, if_neg hfloat.1, if_neg hfloat.2, Primitive.ofFormatName?_formatName]
  rfl

mutual

theorem Format.isFormat_node (htext : ∀ name, shown (.text name)) (f : Format) : f.node.IsFormat shown f := by
  match f with
  | .primitive p => exact .name (Format.ofName?_formatName p)
  | .float32 => exact .name rfl
  | .float64 => exact .name rfl
  | .variable name => exact .tagged rfl (.variable (htext name))
  | .typeName name => exact .tagged rfl .typeName
  | .option content => exact .tagged rfl (.option (Format.isFormat_node htext content))
  | .sequence content => exact .tagged rfl (.sequence (Format.isFormat_node htext content))
  | .map key value =>
    exact .tagged rfl (.map (Or.inl rfl) (Format.isFormat_node htext key) (Format.isFormat_node htext value))
  | .tuple contents => exact .tagged rfl (.tuple rfl (Format.isFormat_nodes htext contents))
  | .array content size => exact .tagged rfl (.array (Or.inl rfl) (Format.isFormat_node htext content))
termination_by structural f

theorem Format.isFormat_nodes (htext : ∀ name, shown (.text name)) (fs : List Format) :
    List.Forall₂ (Value.IsFormat shown) (Format.nodes fs) fs := by
  match fs with
  | [] => exact .nil
  | f :: fs => exact .cons (Format.isFormat_node htext f) (Format.isFormat_nodes htext fs)
termination_by structural fs

end

variable (htext : ∀ name, shown (.text name))

include htext

theorem isListOf_fields (fields : List (String × Format)) :
    (Value.fields (fields.map fun (name, f) => (name, f.node))).IsListOf (Value.IsField shown) fields := by
  refine ⟨_, rfl, ?_⟩
  rw [List.map_map]
  refine List.forall₂_map_left_iff.2 (List.forall₂_same.2 fun field _ => ?_)
  exact ⟨_, rfl, Format.isFormat_node htext field.2⟩

theorem VariantFormat.isVariant_node (vf : VariantFormat) : vf.node.IsVariant shown vf := by
  cases vf with
  | unit => exact .unit
  | newType content => exact .tagged rfl (.newType (Format.isFormat_node htext content))
  | tuple contents => exact .tagged rfl (.tuple ⟨_, rfl, Format.isFormat_nodes htext contents⟩)
  | struct fields => exact .tagged rfl (.struct (isListOf_fields htext fields))
  | «variable» name => exact .tagged rfl (.variable (htext name))

/-- The node of a container stands for it, if its variants are in the order of their indices. -/
theorem Container.isContainer_node {c : Container} (h : c.variants.Pairwise fun v w => v.index < w.index) :
    c.node.IsContainer shown c := by
  cases c with
  | unitStruct => exact .unit
  | newTypeStruct content => exact .tagged rfl (.newType (Format.isFormat_node htext content))
  | tupleStruct contents => exact .tagged rfl (.tuple ⟨_, rfl, Format.isFormat_nodes htext contents⟩)
  | struct fields => exact .tagged rfl (.struct (isListOf_fields htext fields))
  | enum variants =>
    refine .tagged rfl (.enum rfl ?_ (List.Perm.refl _) h)
    refine List.forall₂_map_left_iff.2 (List.forall₂_same.2 fun v _ => ?_)
    exact ⟨rfl, _, rfl, VariantFormat.isVariant_node htext v.format⟩

/-- The document of a registry stands for it. -/
theorem Registry.isRegistry_document {r : Registry} (h : r.Ordered) : r.document.IsRegistry shown r := by
  refine .containers rfl (List.forall₂_map_left_iff.2 (List.forall₂_same.2 fun named hnamed => ⟨rfl, ?_⟩))
  exact Container.isContainer_node htext (h named.1 named.2 hnamed)

end Documents

end SolidityWire
