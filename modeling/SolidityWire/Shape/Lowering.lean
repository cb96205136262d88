/-
Lowering: the plan of a format registers every shape that the format needs, children before parents,
and leads to the shape of the format; a container's plan leads to the shape under its name.
-/
import SolidityWire.Schema.Basic
import SolidityWire.Shape.Plan
import SolidityWire.Solidity.Reserved
import SolidityWire.Text.Numeral
import SolidityWire.Text.SnakeCase

namespace SolidityWire

open Solidity (safeName)

/-! ## Formats -/

/-- The name of the struct for an entry of a map. -/
def entryStructName (key value : Shape) : String :=
  "key_values_" ++ key.key ++ "_" ++ value.key

/-- The struct for an entry of a map. -/
def entryStruct (key value : Shape) : Shape :=
  .struct (entryStructName key value) [("key", key), ("value", value)]

/-- The names `entry0`, `entry1`, … given to the parts of a tuple. -/
def entryNames {α : Type} (parts : List α) : List (String × α) :=
  parts.zipIdx.map fun (part, i) => ("entry" ++ toString i, part)

/-- The struct for a tuple. -/
def tupleStruct (parts : List Shape) : Shape :=
  .struct ("tuple_" ++ "_".intercalate (parts.map Shape.key)) (entryNames parts)

/-- Registers a primitive type. -/
def registerPrimitive (p : Primitive) : Plan Shape :=
  Plan.register (.primitive p)

/-- Registers the type of lengths and choices. -/
def registerCount : Plan Shape :=
  registerPrimitive (.integer false .w64)

mutual

/-- The plan of a format. -/
def Format.plan : Format → Plan Shape
  | .primitive p => registerPrimitive p
  | .float32 => Plan.stop .floatingPoint
  | .float64 => Plan.stop .floatingPoint
  | .variable _ => Plan.stop .variableFormat
  | .typeName name => pure (.reference name)
  | .option content => do
    let _ ← registerPrimitive .bool
    let value ← content.plan
    Plan.register (.option value)
  | .sequence content => do
    let _ ← registerCount
    let element ← content.plan
    Plan.register (.sequence element)
  | .map key value => do
    let _ ← registerCount
    let k ← key.plan
    let v ← value.plan
    let _ ← Plan.step (.registerEntries (entryStruct k v))
    Plan.register (.sequence (entryStruct k v))
  | .tuple [] => Plan.stop .emptyTuple
  | .tuple (content :: contents) => do
    let part ← content.plan
    let parts ← Format.plans contents
    Plan.register (tupleStruct (part :: parts))
  | .array content size => do
    let element ← content.plan
    -- The size becomes part of the key, and a number of too many digits cannot be written out.
    if Text.isTooLong size then Plan.stop (.beyond .digits)
    else Plan.register (.array element size)
termination_by structural f => f

/-- The plans of several formats, in order. -/
def Format.plans : List Format → Plan (List Shape)
  | [] => pure []
  | f :: fs => do
    let s ← f.plan
    let ss ← Format.plans fs
    return s :: ss
termination_by structural fs => fs

end

/-! ## Structs and enumerations -/

/-- The plan of named formats: names that are reserved words are made safe. -/
def fieldsPlan : List (String × Format) → Plan (List (String × Shape))
  | [] => pure []
  | (name, f) :: rest => do
    let s ← f.plan
    let fields ← fieldsPlan rest
    return (safeName name, s) :: fields

/-- The plan of a struct. -/
def structPlan (name : String) (fields : List (String × Format)) : Plan Shape := do
  let fields ← fieldsPlan fields
  if (fields.map Prod.fst).Nodup then Plan.register (.struct name fields)
  else Plan.stop (.collidingFields name (fields.map Prod.fst))

/-- The field of a variant's payload. -/
def payloadField (variant : String) : String :=
  safeName (Text.snakeCase variant)

/-- The plan of what a variant carries; structs get the name of the enumeration and the variant. -/
def VariantFormat.plan (enumName variant : String) : VariantFormat → Plan (Option Shape)
  | .unit => pure none
  | .newType content => do
    let s ← content.plan
    return some s
  | .tuple contents =>
    if contents.isEmpty then Plan.stop (.emptyVariant (enumName ++ "_" ++ variant))
    else do
      let s ← structPlan (enumName ++ "_" ++ variant) (entryNames contents)
      return some s
  | .struct fields =>
    if fields.isEmpty then Plan.stop (.emptyVariant (enumName ++ "_" ++ variant))
    else do
      let s ← structPlan (enumName ++ "_" ++ variant) fields
      return some s
  | .variable _ => Plan.stop (.variableVariant (enumName ++ "_" ++ variant))

/-- The plan of variants, in order. -/
def variantsPlan (enumName : String) :
    List IndexedVariant → Plan (List (String × Option String × Option Shape))
  | [] => pure []
  | v :: rest => do
    let payload ← v.format.plan enumName v.name
    let variants ← variantsPlan enumName rest
    return (v.name, payload.map fun _ => payloadField v.name, payload) :: variants

/-- The field names of the struct for a tagged enumeration. -/
def taggedFields (variants : List (String × Option String × Option Shape)) : List String :=
  "choice" :: Shape.payloadFields variants

/-- The plan of an enumeration: if no variant carries anything, only the names are left. -/
def enumPlan (name : String) (variants : List IndexedVariant) : Plan Shape :=
  if variants.isEmpty then Plan.stop (.emptyEnum name)
  else if variants.all (·.format.isUnit) then
    Plan.register (.simpleEnum name (variants.map (·.name)))
  else do
    let variants ← variantsPlan name variants
    -- Names are compared after they were put into snake case, which can make different ones equal.
    if (taggedFields variants).Nodup then do
      let _ ← registerCount
      Plan.register (.taggedEnum name variants)
    else Plan.stop (.collidingPayloads name (taggedFields variants))

/-! ## Containers -/

/-- The plan of a container's content. -/
def Container.bodyPlan (name : String) : Container → Plan Shape
  | .unitStruct => Plan.stop (.unitStruct name)
  | .newTypeStruct content => structPlan name [("value", content)]
  | .tupleStruct contents =>
    if contents.isEmpty then Plan.stop (.emptyTupleStruct name)
    else structPlan name (entryNames contents)
  | .struct fields =>
    if fields.isEmpty then Plan.stop (.emptyStruct name) else structPlan name fields
  | .enum variants => enumPlan name variants

/-- The plan of a container. -/
def Container.plan (name : String) (c : Container) : Plan Shape := do
  let _ ← Plan.step (.enter name)
  c.bodyPlan name

/-- The plan of a registry. -/
def Registry.plan : Registry → Plan Unit
  | [] => pure ()
  | (name, c) :: rest => do
    let _ ← c.plan name
    Registry.plan rest

end SolidityWire
