/-
What can be wrong with the document of a registry, and the words for it.
-/
import SolidityWire.Limit
import SolidityWire.Value.Literal

namespace SolidityWire

/-- A fault of a registry document. Where the document is read, a fault inside a container is put
under the container's name, unless it is that the document goes beyond a bound. Of a text that is no
document only that is told: where and how it fails are words of the reader of documents. -/
inductive SchemaFault where
  | invalidYaml
  | documentNotMapping
  | containerNameNotText (name : Value)
  | inContainer (name : String) (fault : SchemaFault)
  | notSingleEntry (what : String) (node : Value)
  | tagNotText (what : String) (tag : Value)
  | notList (what : String) (node : Value)
  | unknownFormat (name : String)
  | unknownFormatTag (tag : String)
  | unknownVariantTag (tag : String)
  | unknownContainerTag (tag : String)
  | typeNameNotText (node : Value)
  | badMapEntries (node : Value)
  | badArrayEntries (node : Value)
  | badArraySize (size : Value)
  | variantsNotMapping (node : Value)
  | indexNotInteger (index : Value)
  | beyond (l : Limit)
  deriving Inhabited

/-- The words for a fault. -/
def SchemaFault.message : SchemaFault → String
  | invalidYaml => "Invalid YAML"
  | documentNotMapping => "Registry document must be a mapping of container names"
  | containerNameNotText name => "Container name must be a string, got " ++ name.literal
  | inContainer name fault => name ++ ": " ++ fault.message
  | notSingleEntry what node =>
    "Expected a single-key mapping for " ++ what ++ ", got " ++ node.literal
  | tagNotText what tag => "Expected a string tag for " ++ what ++ ", got " ++ tag.literal
  | notList what node => "Expected a list for " ++ what ++ ", got " ++ node.literal
  | unknownFormat name => "Unknown format: " ++ name
  | unknownFormatTag tag => "Unknown format tag: " ++ tag
  | unknownVariantTag tag => "Unknown variant tag: " ++ tag
  | unknownContainerTag tag => "Unknown container tag: " ++ tag
  | typeNameNotText node => "TYPENAME expects a string, got " ++ node.literal
  | badMapEntries node => "MAP expects KEY and VALUE entries, got " ++ node.literal
  | badArrayEntries node => "TUPLEARRAY expects CONTENT and SIZE entries, got " ++ node.literal
  | badArraySize size => "TUPLEARRAY size must be a non-negative integer, got " ++ size.literal
  | variantsNotMapping node => "ENUM expects a mapping of variants, got " ++ node.literal
  | indexNotInteger index => "Variant index must be an integer, got " ++ index.literal
  | beyond l => l.message

/-- The node that the words for a fault show. -/
def SchemaFault.node? : SchemaFault → Option Value
  | containerNameNotText v | notSingleEntry _ v | tagNotText _ v | notList _ v | typeNameNotText v
  | badMapEntries v | badArrayEntries v | badArraySize v | variantsNotMapping v
  | indexNotInteger v => some v
  | inContainer _ fault => fault.node?
  | _ => none

/-- The bound that keeps a fault from being told: the one that the document goes beyond, or the one
for numbers in a node that the words show. -/
def SchemaFault.limit? (fault : SchemaFault) : Option Limit :=
  match fault with
  | beyond l => some l
  | fault => if fault.node?.any Value.isTooLong then some .digits else none

end SolidityWire
