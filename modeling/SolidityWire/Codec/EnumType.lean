/-
Generated enumerations: which of the names become members. Names that are private to the type, and
those between underscores that have a meaning of their own, are attributes of the type but no
members; all names count where ordinals are given.
-/
import SolidityWire.Codec.Misuse

namespace SolidityWire.Codec

/-- An enumeration: its members with their ordinals, the attributes that are no members, the latest
first, and the ordinal under which an order of the members was given last. -/
structure EnumType where
  members : List (String × Nat) := []
  attributes : List (String × Nat) := []
  order : Nat := 0
  deriving DecidableEq, Inhabited, Repr

/-- Enumerations differ between editions of the language that a codec is made in: later ones look
whether there are members at all before they ask about a value that no member has. -/
inductive Edition where
  | early
  | late
  deriving DecidableEq, Inhabited, Repr

/-! ## Kinds of names -/

/-- Whether a name is longer than `2 * n`, has `n` underscores at either end, and other characters
next to them. -/
def isEnclosed (n : Nat) (name : String) : Bool :=
  let cs := name.toList
  let sc := cs.reverse
  let bars := List.replicate n '_'
  2 * n < cs.length && cs.take n == bars && sc.take n == bars &&
    (cs.drop n).head? != some '_' && (sc.drop n).head? != some '_'

/-- Whether a name is private to the type: it begins with the type's name between underscores, and
at most one underscore ends it. -/
def isPrivate (typeName name : String) : Bool :=
  let front := "_" ++ typeName ++ "__"
  name.startsWith front && front.length < name.length &&
    (name.toList.reverse.take 2) != ['_', '_']

/-- The names between single underscores that may be given. -/
def hookNames : List String :=
  ["_generate_next_value_", "_numeric_repr_", "_missing_", "_iter_member_",
    "_iter_member_by_value_", "_iter_member_by_def_"]

/-- The names between double underscores whose attribute spoils the type. -/
def spoilingNames : List String :=
  ["__slots__", "__qualname__", "__classcell__"]

/-- The names between double underscores whose attribute spoils the making of members. -/
def makerNames : List String :=
  ["__getattr__", "__getattribute__", "__init__", "__new__", "__setattr__"]

namespace EnumType

/-! ## Making -/

/-- Adds a name to the type. -/
def addName (typeName : String) (t : EnumType) (name : String) (ordinal : Nat) :
    Except Misuse EnumType :=
  let asAttribute := { t with attributes := (name, ordinal) :: t.attributes }
  -- Both `_order_` and a private name can stand between single underscores, so they come first.
  if isPrivate typeName name then .ok asAttribute
  else if name = "_order_" ∨ name = "__order__" then .ok { t with order := ordinal }
  else if isEnclosed 1 name then
    if hookNames.contains name then .ok asAttribute
    else if name = "_ignore_" then .error .wrongType
    else .error .badValue
  else if isEnclosed 2 name then .ok asAttribute
  -- Only members exclude each other; an attribute given twice takes its latest ordinal.
  else if (t.members.lookup name).isSome then .error .wrongType
  else .ok { t with members := t.members ++ [(name, ordinal)] }

/-- Adds names to the type, the first of them with the given ordinal. -/
def addNames (typeName : String) (t : EnumType) : (ordinal : Nat) → List String →
    Except Misuse EnumType
  | _, [] => .ok t
  | ordinal, name :: rest => do
    addNames typeName (← t.addName typeName name ordinal) (ordinal + 1) rest

/-- Whether the type has an attribute that is no member. -/
def hasAttribute (t : EnumType) (name : String) : Bool :=
  (t.attributes.lookup name).isSome

/-- Refuses a type whose names are in the way of others that it has for itself. -/
def check (t : EnumType) : Except Misuse EnumType :=
  if (t.members.lookup "").isSome || (t.members.lookup "mro").isSome then .error .badValue
  else if spoilingNames.any t.hasAttribute then .error .wrongType
  else if !t.members.isEmpty && makerNames.any t.hasAttribute then .error .wrongType
  else if 0 < t.order then .error .wrongType
  else .ok t

/-- The enumeration of the names, or what is wrong with them. -/
def ofNames (typeName : String) (names : List String) : Except Misuse EnumType := do
  check (← addNames typeName {} 0 names)

/-! ## Look-up -/

/-- The member with the ordinal. -/
def member? (t : EnumType) (ordinal : Nat) : Option String :=
  (t.members.find? fun (_, n) => n = ordinal).map Prod.fst

/-- Whether the type fails where it is asked about a value that no member has: an attribute stands in
the place of the function that says so, or there are no members to look among. -/
def isMute (t : EnumType) (edition : Edition) : Bool :=
  t.hasAttribute "_missing_" || (edition = .late && t.members.isEmpty)

/-- The ordinal that a name of the type stands for, whether of a member or of another attribute; it
is given with `true` for a member. -/
def named? (t : EnumType) (name : String) : Option (Bool × Nat) :=
  match t.members.lookup name, t.attributes.lookup name with
  | some n, _ => some (true, n)
  | none, some n => some (false, n)
  | none, none => none

end EnumType

end SolidityWire.Codec
