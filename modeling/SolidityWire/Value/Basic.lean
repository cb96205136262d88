/-
Values: the nodes of a loaded document, and what the codec encodes and decodes. Numbers of any
kind are compared as numbers, so `true`, `1` and `1.0` are one key of a mapping.
-/
import SolidityWire.Decimal.Shortest
import SolidityWire.Value.Timestamp

namespace SolidityWire

/-- A value. A text with halves of surrogate pairs in it is unpaired: it holds place holders for them,
and no bytes stand for it. A view shows bytes that stand in a row as items, which may be wider than
one of them. Records and members belong to a generated type, named by its key; a record shades
operations if its fields are attributes of its type as well. What is foreign only messages show, by
its literal and the name of its class. A collection that contains itself is labelled, and its label
stands again where it is inside itself. -/
inductive Value where
  | null
  | boolean (b : Bool)
  | integer (n : Int)
  | float (x : Binary64)
  | text (s : String)
  | unpaired (s : String)
  | bytes (data : List UInt8)
  | byteArray (data : List UInt8)
  | view (items : List Value) (data : List UInt8)
  | list (items : List Value)
  | tuple (items : List Value)
  | set (items : List Value)
  | dict (entries : List (Value × Value))
  | date (d : Date)
  | moment (t : Moment)
  | record (key : String) (fields : List (String × Value)) (shades : Bool := false)
  | member (key name : String) (ordinal : Nat)
  | foreign (literal className : String)
  | labelled (label : Nat) (content : Value)
  | again (label : Nat)
  deriving Inhabited

namespace Value

/-! ## Records -/

/-- Whether a field stands in the place of an operation of the value's type. -/
def lacks (v : Value) (operation : String) : Bool :=
  match v with
  | record _ fields true => (fields.lookup operation).isSome
  | _ => false

/-- Whether no field of the value can be read: one of them stands in the place of the operation that
reads fields. -/
def isSealed (v : Value) : Bool :=
  v.lacks "__getattribute__"

/-! ## Numbers -/

/-- The whole number that a value is; a boolean is zero or one, a member its ordinal. -/
def wholeNumber? : Value → Option Int
  | boolean b => some (if b then 1 else 0)
  | integer n => some n
  | member _ _ ordinal => some ordinal
  | _ => none

/-- How a number compares with a whole one: `none` if the value is no number, `some none` if it is
a NaN. -/
def compareWhole? (v : Value) (n : Int) : Option (Option Ordering) :=
  match v with
  | float x => some (x.compareInt? n)
  | v => v.wholeNumber?.map fun m => some (compare m n)

/-- Whether the value is a number equal to the whole number. -/
def isWhole (v : Value) (n : Int) : Bool :=
  v.compareWhole? n == some (some .eq)

/-! ## Keys of a mapping -/

mutual

/-- Whether the value may be a key: nothing that can change in place may. -/
def isHashable : Value → Bool
  | byteArray _ | view .. | list _ | set _ | dict _ | record .. | labelled .. | again _ => false
  | tuple items => allHashable items
  | _ => true
termination_by structural v => v

/-- Whether all of several values may be keys. -/
def allHashable : List Value → Bool
  | [] => true
  | v :: vs => v.isHashable && allHashable vs
termination_by structural vs => vs

end

mutual

/-- Whether two values are the same key. -/
def sameKey : Value → Value → Bool
  | null, null => true
  | text a, text b => a == b
  | unpaired a, unpaired b => a == b
  | bytes a, bytes b => a == b
  | date a, date b => a == b
  | moment a, moment b => a.same b
  | tuple as, tuple bs => sameKeys as bs
  | float x, float y => x.numEq y
  | a, b =>
    match a.wholeNumber?, b.wholeNumber? with
    | some m, some n => m == n
    | some m, none => b.isWhole m
    | none, some n => a.isWhole n
    | none, none => false
termination_by structural a => a

/-- Whether two lists of values are the same keys one by one. -/
def sameKeys : List Value → List Value → Bool
  | [], [] => true
  | a :: as, b :: bs => a.sameKey b && sameKeys as bs
  | _, _ => false
termination_by structural as => as

end

/-- Sets the value of a key: a key that is there keeps its place and its spelling. -/
def putEntry (entries : List (Value × Value)) (key value : Value) : List (Value × Value) :=
  match entries with
  | [] => [(key, value)]
  | (k, v) :: rest =>
    if k.sameKey key then (k, value) :: rest else (k, v) :: putEntry rest key value

/-- The mapping of the given entries, in the order in which the keys first come. -/
def dictOf (entries : List (Value × Value)) : Value :=
  dict (entries.foldl (fun acc (k, v) => putEntry acc k v) [])

end Value

end SolidityWire
