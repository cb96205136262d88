/-
Shapes: the Solidity types that a schema needs. A shape's key names its functions and tells it from
other shapes; a reference stands for the shape of the container that it names.
-/
import SolidityWire.Schema.Primitive

namespace SolidityWire

/-- A Solidity type. A tagged enumeration is a struct of a choice and one field for each variant
that carries something; of a variant, the field and what it carries are given on their own. -/
inductive Shape where
  | primitive (p : Primitive)
  | reference (name : String)
  | sequence (element : Shape)
  | option (value : Shape)
  | array (element : Shape) (size : Int)
  | struct (name : String) (fields : List (String × Shape))
  | simpleEnum (name : String) (members : List String)
  | taggedEnum (name : String) (variants : List (String × Option String × Option Shape))
  deriving Inhabited, Repr

namespace Shape

/-! ## Keys and names -/

/-- The key of a shape. -/
def key : Shape → String
  | primitive p => p.key
  | reference name => name
  | sequence element => "seq_" ++ element.key
  | option value => "opt_" ++ value.key
  | array element size => "tuplearray" ++ toString size ++ "_" ++ element.key
  | struct name _ => name
  | simpleEnum name _ => name
  | taggedEnum name _ => name

/-- The name of the type in Solidity: a sequence is an array of its element. -/
def typeName : Shape → String
  | sequence element => element.typeName ++ "[]"
  | s => s.key

/-- The word for the kind of a shape. -/
def kindName : Shape → String
  | primitive _ => "Primitive"
  | reference _ => "TypeReference"
  | sequence _ => "SequenceOf"
  | option _ => "OptionOf"
  | array _ _ => "FixedArrayOf"
  | struct _ _ => "Struct"
  | simpleEnum _ _ => "SimpleEnum"
  | taggedEnum _ _ => "TaggedEnum"

/-- Whether the shape only refers to another one. -/
def isReference : Shape → Bool
  | reference _ => true
  | _ => false

/-! ## Children -/

/-- What the variants carry, each with its field. -/
def payloads (variants : List (String × Option String × Option Shape)) :
    List (Option String × Shape) :=
  variants.filterMap fun (_, field, payload) => payload.map fun s => (field, s)

/-- The fields that the variants have. -/
def payloadFields (variants : List (String × Option String × Option Shape)) : List String :=
  variants.filterMap (·.2.1)

/-- The shapes that a shape is built from. -/
def children : Shape → List Shape
  | primitive _ | reference _ | simpleEnum _ _ => []
  | sequence element => [element]
  | option value => [value]
  | array element _ => [element]
  | struct _ fields => fields.map Prod.snd
  | taggedEnum _ variants => (payloads variants).map Prod.snd

/-- The keys of the shapes whose functions the functions of a shape call, in order and with
repetitions. -/
def dependencies : Shape → List String
  | reference name => [name]
  -- A sequence lists its element only: its length is not read by a function of the table.
  | option value => [Primitive.bool.key, value.key]
  | taggedEnum _ variants =>
    (Primitive.integer false .w64).key :: (payloads variants).map (·.2.key)
  | s => s.children.map key

/-! ## Equality -/

mutual

/-- Whether two shapes are built alike. -/
def same : Shape → Shape → Bool
  | primitive p, primitive q => p == q
  | reference m, reference n => m == n
  | sequence a, sequence b => a.same b
  | option a, option b => a.same b
  | array a m, array b n => m == n && a.same b
  | struct m fs, struct n gs => m == n && sameFields fs gs
  | simpleEnum m xs, simpleEnum n ys => m == n && xs == ys
  | taggedEnum m vs, taggedEnum n ws => m == n && sameVariants vs ws
  | _, _ => false
termination_by structural s => s

/-- Whether two lists of fields have the same names and shapes. -/
def sameFields : List (String × Shape) → List (String × Shape) → Bool
  | [], [] => true
  | (m, s) :: fs, (n, t) :: gs => m == n && s.same t && sameFields fs gs
  | _, _ => false
termination_by structural fs => fs

/-- Whether two lists of variants have the same names, fields and payloads. -/
def sameVariants :
    List (String × Option String × Option Shape) →
      List (String × Option String × Option Shape) → Bool
  | [], [] => true
  | (m, f, v) :: vs, (n, g, w) :: ws => m == n && f == g && samePayload v w && sameVariants vs ws
  | _, _ => false
termination_by structural vs => vs

/-- Whether two variants carry the same. -/
def samePayload : Option Shape → Option Shape → Bool
  | none, none => true
  | some s, some t => s.same t
  | _, _ => false
termination_by structural v => v

end

mutual

theorem same_iff (s t : Shape) : s.same t = true ↔ s = t := by
  match s with
  | primitive _ => cases t <;> simp [same]
  | reference _ => cases t <;> simp [same]
  | sequence a => cases t <;> simp [same, same_iff a]
  | option a => cases t <;> simp [same, same_iff a]
  | array a _ => cases t <;> simp [same, same_iff a, and_comm]
  | struct _ fs => cases t <;> simp [same, sameFields_iff fs]
  | simpleEnum _ _ => cases t <;> simp [same]
  | taggedEnum _ vs => cases t <;> simp [same, sameVariants_iff vs]

theorem sameFields_iff (fs gs : List (String × Shape)) : sameFields fs gs = true ↔ fs = gs := by
  match fs with
  | [] => cases gs <;> simp [sameFields]
  | (m, s) :: fs =>
    match gs with
    | [] => simp [sameFields]
    | (n, t) :: gs => simp [sameFields, same_iff s, sameFields_iff fs]

theorem sameVariants_iff (vs ws : List (String × Option String × Option Shape)) :
    sameVariants vs ws = true ↔ vs = ws := by
  match vs with
  | [] => cases ws <;> simp [sameVariants]
  | (m, f, v) :: vs =>
    match ws with
    | [] => simp [sameVariants]
    | (n, g, w) :: ws => simp [sameVariants, samePayload_iff v, sameVariants_iff vs, and_assoc]

theorem samePayload_iff (v w : Option Shape) : samePayload v w = true ↔ v = w := by
  match v with
  | none => cases w <;> simp [samePayload]
  | some s =>
    match w with
    | none => simp [samePayload]
    | some t => simp [samePayload, same_iff s]

end

instance : DecidableEq Shape := fun s t => decidable_of_iff _ (same_iff s t)

end Shape

end SolidityWire
