/-
The dates and moments that scalars write.
-/
import SolidityWire.Value.Basic
import SolidityWire.Yaml.Fault
import SolidityWire.Yaml.Place

namespace SolidityWire.Yaml

/-! ## Parts -/

/-- The number of so many digits, and the text behind them. -/
def fixedDigits (count : Nat) (cs : List Char) : Option (Nat × List Char) :=
  let digits := cs.take count
  if digits.length = count ∧ digits.all Char.isDigit then
    some (digits.foldl (fun n c => n * 10 + (c.toNat - 48)) 0, cs.drop count)
  else none

/-- The number of one or two digits, and the text behind them. -/
def shortDigits (cs : List Char) : Option (Nat × List Char) :=
  (fixedDigits 2 cs).or (fixedDigits 1 cs)

/-- The text behind a sign. -/
def behind (sign : Char) : List Char → Option (List Char)
  | [] => none
  | c :: cs => if c = sign then some cs else none

/-- The text behind the letter or the blanks between date and time. -/
def behindGap (cs : List Char) : Option (List Char) :=
  match cs with
  | c :: rest =>
    if c = 'T' ∨ c = 't' then some rest
    else if isBlank c then some (rest.dropWhile isBlank)
    else none
  | [] => none

/-- The distance from universal time, in seconds. -/
def zone? (cs : List Char) : Option (Option Int) :=
  if cs.isEmpty then some none
  else
    match cs.dropWhile isBlank with
    | ['Z'] => some (some 0)
    | sign :: rest => do
      if sign ≠ '+' ∧ sign ≠ '-' then none
      let (hours, rest) ← shortDigits rest
      let minutes ← if rest.isEmpty then some 0 else
        match fixedDigits 2 (← behind ':' rest) with
        | some (m, []) => some m
        | _ => none
      let seconds : Int := hours * 3600 + minutes * 60
      return some (if sign = '-' then -seconds else seconds)
    | [] => none

/-- The digits of a fraction of a second, if there is one, and the text behind them. -/
def fraction (cs : List Char) : List Char × List Char :=
  match cs with
  | '.' :: rest => (rest.takeWhile Char.isDigit, rest.dropWhile Char.isDigit)
  | cs => ([], cs)

/-- The microseconds that the digits of a fraction write; further digits are dropped. -/
def microseconds (digits : List Char) : Nat :=
  ((digits ++ List.replicate 6 '0').take 6).foldl (fun n c => n * 10 + (c.toNat - 48)) 0

/-- The moment on a date that a time of day writes. -/
def momentOn (date : Date) (cs : List Char) : Option Moment := do
  let (hour, cs) ← shortDigits cs
  let (minute, cs) ← fixedDigits 2 (← behind ':' cs)
  let (second, cs) ← fixedDigits 2 (← behind ':' cs)
  let (digits, cs) := fraction cs
  return ⟨date, hour, minute, second, microseconds digits, ← zone? cs⟩

/-! ## Timestamps -/

/-- A date or a moment as it is written, in the calendar or not. -/
inductive Timestamp where
  | date (d : Date)
  | moment (t : Moment)

/-- The timestamp that a text writes. -/
def timestamp? (cs : List Char) : Option Timestamp := do
  let (year, cs) ← fixedDigits 4 cs
  let (month, cs) ← shortDigits (← behind '-' cs)
  let (day, cs) ← shortDigits (← behind '-' cs)
  let date : Date := ⟨year, month, day⟩
  if cs.isEmpty then return .date date
  return .moment (← momentOn date (← behindGap cs))

/-- Whether the text has the form of a timestamp; a date alone has two digits for month and day. -/
def isTimestampForm (cs : List Char) : Bool :=
  match timestamp? cs with
  | some (.date _) => cs.length == 10
  | some (.moment _) => true
  | none => false

/-- The timestamp that a scalar writes, which has to be in the calendar. -/
def timestampOf (cs : List Char) : Except Fault Value :=
  match timestamp? cs with
  | none => .error (.content .badTimestamp)
  | some (.date d) => if d.isValid then .ok (.date d) else .error (.content .impossibleTime)
  | some (.moment t) => if t.isValid then .ok (.moment t) else .error (.content .impossibleTime)

end SolidityWire.Yaml
