/-
A table in use: shapes are registered in it, one by one or by lowering, and questions about it are asked in between.
What has been found out about a reference is remembered, since the shape under a name stays what it is.
-/
import SolidityWire.Shape.Cycles
import SolidityWire.Shape.Lowering
import SolidityWire.Solidity.Shapes

namespace SolidityWire

/-- Whether decoded values of a registered shape live in memory. -/
def Shape.livesInMemory : Shape → Bool
  | primitive p => p.needsMemory
  | simpleEnum .. => false
  | _ => true

/-- Whether the key of a shape needs a number that is too long to be written. -/
def Shape.hasLongKey : Shape → Bool
  | sequence element => element.hasLongKey
  | option value => value.hasLongKey
  | array element size => Text.isTooLong size || element.hasLongKey
  | _ => false

namespace Solidity

/-- A table, and of which names it is remembered whether decoded values of the shape live in memory. -/
structure Registrar where
  table : Table := .empty
  remembered : List (String × Bool) := []
  deriving Inhabited

/-- What a registrar is asked for: to register, or to answer a question. -/
inductive Request where
  | insert (s : Shape)
  | lowerFormat (f : Format)
  | lowerContainer (name : String) (c : Container)
  | get (key : String)
  | contains (key : String)
  | resolve (s : Shape)
  | needsMemory (s : Shape)
  | location (s : Shape)
  | cycle
  | declarations (s : Shape)

/-- Whether the request only asks a question. -/
def Request.isQuestion : Request → Bool
  | insert _ | lowerFormat _ | lowerContainer .. => false
  | _ => true

/-- What is replied to a request. -/
inductive Reply where
  | shape (s : Shape)
  | flag (b : Bool)
  | location (l : Location)
  | declarations (ds : List Declaration)

/-- What comes of a request: the reply or the reason that there is none, what was reported, and the registrar
after it. -/
structure Answered where
  reply : Except Error Reply
  notices : List Notice := []
  after : Registrar

namespace Registrar

/-! ## Registration -/

/-- Carries out a plan; what it has registered before it stops stays. -/
def carry (r : Registrar) (p : Plan Shape) : Answered :=
  let (table, notices, result) := r.table.carryOut p
  ⟨(result.map .shape).mapError .ofUnsupported, notices, { r with table }⟩

/-- Registers a shape, for which its key has to be written. -/
def insert (r : Registrar) (s : Shape) : Answered :=
  if s.hasLongKey then ⟨.error (.beyond .digits), [], r⟩ else r.carry (Plan.register s)

/-! ## Questions -/

/-- The shape under a key. -/
def find (r : Registrar) (key : String) : Except Error Shape :=
  match r.table.get? key with
  | some s => .ok s
  | none => .error (.unresolved key)

/-- The registered shape that a shape stands for. -/
def resolve (r : Registrar) (s : Shape) : Except Error Shape :=
  match r.table.resolve? s with
  | some s' => .ok s'
  | none => .error (.unresolved s.key)

/-- Whether decoded values of a shape live in memory. For a reference that is looked up among what is remembered,
and found out and remembered only if it is not there. -/
def askMemory (r : Registrar) (s : Shape) : Except Error Bool × Registrar :=
  match s with
  | .reference name =>
    match r.remembered.lookup name with
    | some known => (.ok known, r)
    | none =>
      match r.find name with
      | .ok found =>
        (.ok found.livesInMemory,
          { r with remembered := (name, found.livesInMemory) :: r.remembered })
      -- Nothing is remembered of a name without a shape: it may be registered later.
      | .error e => (.error e, r)
  | s => (.ok s.livesInMemory, r)

/-- Asks about several shapes in order, up to the first without an answer. -/
def askAll (r : Registrar) : List Shape → Except Error Unit × Registrar
  | [] => (.ok (), r)
  | s :: rest =>
    match r.askMemory s with
    | (.ok _, r') => r'.askAll rest
    | (.error e, r') => (.error e, r')

/-- The declarations of a shape, for which its key and those of its children have to be written, and it has to be
known where the children live. -/
def askDeclarations (r : Registrar) (s : Shape) : Except Error (List Declaration) × Registrar :=
  if (s :: s.children).any Shape.hasLongKey then (.error (.beyond .digits), r)
  else
    match r.askAll s.children with
    | (.ok (), r') => (Solidity.declarations r'.table s, r')
    | (.error e, r') => (.error e, r')

/-- Whether a shape depends on itself, and the notice that one does. -/
def askCycle (r : Registrar) : Except Error Bool × List Notice :=
  match r.table.findCycle with
  | .ok none => (.ok false, [])
  | .ok (some key) => (.ok true, [.selfDependent key])
  | .error name => (.error (.unresolved name), [])

/-! ## Requests -/

/-- What comes of a request. -/
def answer (r : Registrar) : Request → Answered
  | .insert s => r.insert s
  | .lowerFormat f => r.carry f.plan
  | .lowerContainer name c => r.carry (c.plan name)
  | .get key => ⟨(r.find key).map .shape, [], r⟩
  | .contains key => ⟨.ok (.flag (r.table.contains key)), [], r⟩
  | .resolve s => ⟨(r.resolve s).map .shape, [], r⟩
  | .needsMemory s => ⟨(r.askMemory s).1.map .flag, [], (r.askMemory s).2⟩
  | .location s =>
    ⟨(r.askMemory s).1.map fun b => .location (if b then .memory else .stack), [], (r.askMemory s).2⟩
  | .cycle => ⟨r.askCycle.1.map .flag, r.askCycle.2, r⟩
  | .declarations s => ⟨(r.askDeclarations s).1.map .declarations, [], (r.askDeclarations s).2⟩

/-- The registrar after some requests, whether they have been granted or refused. -/
def run (r : Registrar) : List Request → Registrar
  | [] => r
  | q :: rest => (r.answer q).after.run rest

end Registrar

end Solidity

end SolidityWire
