/-
Operations on values in formulas: truth, equality, order, membership, joining and repeating, and
looking up items.
-/
import SolidityWire.Codec.Access
import SolidityWire.Formula.Number
import SolidityWire.Value.Literal

namespace SolidityWire

namespace Value

/-! ## Truth and equality -/

/-- Whether the value counts as true: all but zero and what is empty do. -/
def isTrue : Value → Bool
  | null => false
  | boolean b => b
  | integer n => n ≠ 0
  | float x => !x.numEq (.ofInt 0)
  | text s => !s.isEmpty
  | bytes data | byteArray data => !data.isEmpty
  | list items | tuple items | set items | view items _ => !items.isEmpty
  | dict entries => !entries.isEmpty
  | member _ _ ordinal => ordinal ≠ 0
  | labelled _ v => v.isTrue
  | _ => true

mutual

/-- Whether two values are equal. -/
def equal : Value → Value → Bool
  | list as, list bs => equalItems as bs
  | tuple as, tuple bs => equalItems as bs
  | set as, set bs => as.length = bs.length && as.all fun a => bs.any a.sameKey
  | dict as, dict bs => as.length = bs.length && entriesAmong bs as
  | record k as _, record l bs _ => k = l && equalFields as bs
  | bytes as, byteArray bs | byteArray as, bytes bs | byteArray as, byteArray bs => as == bs
  | foreign a m, foreign b n => a = b && m = n
  | a, b => a.sameKey b
termination_by structural a => a

/-- Whether two lists have equal values. -/
def equalItems : List Value → List Value → Bool
  | [], [] => true
  | a :: as, b :: bs => a.equal b && equalItems as bs
  | _, _ => false
termination_by structural as => as

/-- Whether each entry has an equal one among others. -/
def entriesAmong (others : List (Value × Value)) : List (Value × Value) → Bool
  | [] => true
  | (k, v) :: rest =>
    (match others.find? fun (l, _) => l.sameKey k with
      | some (_, w) => v.equal w
      | none => false) && entriesAmong others rest
termination_by structural entries => entries

/-- Whether records have equal values in their fields. -/
def equalFields : List (String × Value) → List (String × Value) → Bool
  | [], [] => true
  | (m, a) :: as, (n, b) :: bs => m = n && a.equal b && equalFields as bs
  | _, _ => false
termination_by structural as => as

end

/-! ## Order -/

/-- The order of two lists by their first difference. -/
def orderCodes : List Nat → List Nat → Ordering
  | [], [] => .eq
  | [], _ => .lt
  | _, [] => .gt
  | a :: as, b :: bs => (compare a b).then (orderCodes as bs)

/-- The codes of a text. -/
def codes (s : String) : List Nat :=
  s.toList.map Text.codeOf

mutual

/-- How two values compare; `none` if neither comes first and they are not equal. -/
def order : Value → Value → Except Misuse (Option Ordering)
  | text a, text b => .ok (some (orderCodes (codes a) (codes b)))
  | bytes a, bytes b => .ok (some (orderCodes (a.map UInt8.toNat) (b.map UInt8.toNat)))
  | list as, list bs => orderItems as bs
  | tuple as, tuple bs => orderItems as bs
  | date a, date b => .ok (some (compare a.ordinal b.ordinal))
  | moment a, moment b =>
    if a.offset.isSome = b.offset.isSome then .ok (some (compare a.instant b.instant))
    else .error .wrongType
  | a, b =>
    match Formula.compareNumbers? a b with
    | some result => .ok result
    | none => .error .wrongType
termination_by structural a => a

/-- How two lists compare: by their first values that are not equal. -/
def orderItems : List Value → List Value → Except Misuse (Option Ordering)
  | [], [] => .ok (some .eq)
  | [], _ => .ok (some .lt)
  | _, [] => .ok (some .gt)
  | a :: as, b :: bs => if a.equal b then orderItems as bs else a.order b
termination_by structural as => as

end

/-! ## Membership -/

/-- Whether a list stands as a whole inside another one. -/
def isInside {α : Type} [BEq α] (part : List α) : List α → Bool
  | [] => part.isEmpty
  | a :: rest => part.isPrefixOf (a :: rest) || isInside part rest

/-- Whether a value is among what another one holds. -/
def holds (container v : Value) : Except Misuse Bool :=
  match container, v with
  | text s, text t => .ok (isInside t.toList s.toList)
  | bytes data, bytes part => .ok (isInside part data)
  | bytes data, v =>
    match v.wholeNumber? with
    | some n =>
      if 0 ≤ n ∧ n < 256 then .ok (data.any fun b => (b.toNat : Int) = n) else .error .badValue
    | none => .error .wrongType
  | list items, v | tuple items, v => .ok (items.any v.equal)
  | set items, v => if v.isHashable then .ok (items.any v.sameKey) else .error .wrongType
  | dict entries, v =>
    if v.isHashable then .ok (entries.any fun (k, _) => k.sameKey v) else .error .wrongType
  | _, _ => .error .wrongType

/-! ## Joining and repeating -/

/-- The most items that repeating may give. -/
def mostItems : Nat := 1000000

/-- A list so many times; less than once is not at all. -/
def repeated {α : Type} (items : List α) (n : Int) : Except Misuse (List α) :=
  if mostItems < items.length * n.toNat then .error .tooLarge
  else .ok ((List.replicate n.toNat items).flatten)

/-- A value so many times. -/
def times (v : Value) (n : Int) : Except Misuse Value :=
  match v with
  | text s => (repeated s.toList n).map fun cs => text (String.ofList cs)
  | bytes data => (repeated data n).map bytes
  | list items => (repeated items n).map list
  | tuple items => (repeated items n).map tuple
  | _ => .error .wrongType

/-- The items of the first list and those of the second that are not among them. -/
def union (as bs : List Value) : List Value :=
  bs.foldl (fun done b => if done.any b.sameKey then done else done ++ [b]) as

/-! ## Items -/

/-- The place of an index, which counts from the end if it is negative. -/
def place? (size : Nat) (i : Int) : Option Nat :=
  let i := if i < 0 then i + size else i
  if 0 ≤ i ∧ i < size then some i.toNat else none

/-- The item at an index. -/
def itemAt {α : Type} (items : List α) (i : Value) : Except Misuse α :=
  match i.wholeNumber? with
  | none => .error .wrongType
  | some i =>
    match (place? items.length i).bind (items[·]?) with
    | some a => .ok a
    | none => .error .noItem

/-- The item of a value at an index or under a key. -/
def item (v i : Value) : Except Misuse Value :=
  match v with
  | text s => (itemAt s.toList i).map fun c => text (String.singleton c)
  | bytes data | byteArray data => (itemAt data i).map fun b => integer b.toNat
  | list items | tuple items | view items _ => itemAt items i
  | dict entries =>
    if !i.isHashable then .error .wrongType
    else
      match entries.find? fun (k, _) => k.sameKey i with
      | some (_, w) => .ok w
      | none => .error .noKey
  | _ => .error .wrongType

/-- A bound of a slice: null stands for a bound that is not given. -/
def bound? (v : Value) : Except Misuse (Option Int) :=
  match v, v.wholeNumber? with
  | null, _ => .ok none
  | _, some n => .ok (some n)
  | _, none => .error .wrongType

/-- The places of a slice, from the first on. -/
def slicePlaces (stop step : Int) : (fuel : Nat) → Int → List Int
  | 0, _ => []
  | fuel + 1, i =>
    if (0 < step ∧ i < stop) ∨ (step < 0 ∧ stop < i) then i :: slicePlaces stop step fuel (i + step)
    else []

/-- The items between two bounds; bounds outside of the list are moved to its ends. -/
def sliced {α : Type} (start stop step : Option Int) (items : List α) : Except Misuse (List α) :=
  let step := step.getD 1
  let size : Int := items.length
  if step = 0 then .error .badValue
  else
    let least : Int := if 0 < step then 0 else -1
    let most : Int := if 0 < step then size else size - 1
    let moved (preset : Int) (b : Option Int) : Int :=
      match b with
      | none => preset
      | some i => max least (min most (if i < 0 then i + size else i))
    let first := moved (if 0 < step then least else most) start
    let last := moved (if 0 < step then most else least) stop
    .ok ((slicePlaces last step (items.length + 1) first).filterMap fun i => items[i.toNat]?)

/-- The part of a value between two bounds. -/
def slice (v start stop step : Value) : Except Misuse Value := do
  let cut {α : Type} (items : List α) : Except Misuse (List α) := do
    sliced (← bound? start) (← bound? stop) (← bound? step) items
  match v with
  | text s => return text (String.ofList (← cut s.toList))
  | bytes data => return bytes (← cut data)
  | list items => return list (← cut items)
  | tuple items => return tuple (← cut items)
  | _ => throw .wrongType

end Value

end SolidityWire
