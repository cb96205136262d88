/-
Bytes as they are written, the counterpart of a cursor: what comes is put behind what is there. What is written in
several parts goes out part by part, so that a part is there already when a later one is refused.
-/
import SolidityWire.Wire.Fault

namespace SolidityWire

/-- The bytes written so far. -/
structure Output where
  bytes : List UInt8 := []
  deriving DecidableEq, Inhabited, Repr

/-- What writing gives: nothing or a reason, and in both cases the output after it. -/
abbrev Encoder := Output → Except EncodeError Unit × Output

namespace Output

/-- Puts bytes at the end. -/
def put (o : Output) (data : List UInt8) : Output :=
  ⟨o.bytes ++ data⟩

/-- Puts a number at the end as one byte, if it fits in one. -/
def putByte? (o : Output) (n : Int) : Option Output :=
  if 0 ≤ n ∧ n < 256 then some (o.put [n.toNat.toUInt8]) else none

/-- Puts what encoding gives at the end; a refused value writes nothing. -/
def putEncoded (o : Output) (r : Except EncodeError (List UInt8)) :
    Except EncodeError Unit × Output :=
  match r with
  | .ok data => (.ok (), o.put data)
  | .error e => (.error e, o)

@[simp] theorem put_nil (o : Output) : o.put [] = o :=
  congrArg Output.mk (List.append_nil o.bytes)

@[simp] theorem put_put (o : Output) (front back : List UInt8) : (o.put front).put back = o.put (front ++ back) :=
  congrArg Output.mk (List.append_assoc o.bytes front back)

end Output

namespace Encoder

/-- Writes nothing. -/
def done : Encoder :=
  fun o => (.ok (), o)

/-- Refuses what was to be written. -/
def refuse (e : EncodeError) : Encoder :=
  fun o => (.error e, o)

/-- Writes bytes. -/
def bytes (data : List UInt8) : Encoder :=
  fun o => (.ok (), o.put data)

/-- Writes what encoding gives, once there is all of it. -/
def encoded (r : Except EncodeError (List UInt8)) : Encoder :=
  fun o => o.putEncoded r

/-- First one encoder, then the other; a reason stops at once, and what was written before it stays. -/
def andThen (first second : Encoder) : Encoder :=
  fun o =>
    match first o with
    | (.ok (), o') => second o'
    | (.error e, o') => (.error e, o')

theorem done_eq : done = encoded (.ok []) := by
  funext o
  exact congrArg (Prod.mk _) o.put_nil.symm

/-- Bytes in two parts are written like all of them at once. -/
theorem bytes_andThen (front back : List UInt8) : (bytes front).andThen (bytes back) = encoded (.ok (front ++ back)) := by
  funext o
  exact congrArg (Prod.mk _) (o.put_put front back)

end Encoder

end SolidityWire
