/-
Plans: the registrations that lowering asks for, in order, up to its end or to the construct at
which it stops. A plan does not depend on a table; carrying it out does, and stops at the first
shape whose key is taken by a different one.
-/
import SolidityWire.Notice
import SolidityWire.Shape.Table

namespace SolidityWire

/-! ## Plans -/

/-- One step of a plan. -/
inductive Step where
  | enter (container : String)
  | register (s : Shape)
  /-- The pair of a map's key and value, whose order nothing checks. -/
  | registerEntries (pair : Shape)
  deriving Inhabited, DecidableEq

/-- Steps, and what they lead to. -/
structure Plan (α : Type) where
  steps : List Step
  result : Except Unsupported α

namespace Plan

/-- First one plan, then the one that its result chooses. -/
def andThen {α β : Type} (p : Plan α) (f : α → Plan β) : Plan β :=
  match p.result with
  | .error e => ⟨p.steps, .error e⟩
  | .ok a => ⟨p.steps ++ (f a).steps, (f a).result⟩

instance : Monad Plan where
  pure a := ⟨[], .ok a⟩
  bind := andThen

/-- The plan that stops at a construct. -/
def stop {α : Type} (e : Unsupported) : Plan α :=
  ⟨[], .error e⟩

/-- The plan that takes one step. -/
def step (s : Step) : Plan Unit :=
  ⟨[s], .ok ()⟩

/-- The plan that registers a shape and leads to it. -/
def register (s : Shape) : Plan Shape :=
  ⟨[.register s], .ok s⟩

end Plan

/-! ## Carrying plans out -/

namespace Table

/-- Registers a shape and reports it if it is new. -/
def registerNew (t : Table) (s : Shape) : List Notice × Except Unsupported Table :=
  (if s.isReference || t.contains s.key then [] else [.registering s.kindName s.key], t.insert s)

/-- Carries out one step. -/
def take (t : Table) : Step → List Notice × Except Unsupported Table
  | .enter container => ([.entering container], .ok t)
  | .register s => t.registerNew s
  | .registerEntries pair =>
    let (notices, r) := t.registerNew pair
    (if t.contains pair.key then notices else .unorderedEntries pair.key :: notices, r)

/-- Where a run has led: the table as it is now, what was reported, and the reason to stop. -/
structure Run where
  table : Table
  notices : List Notice
  stopped : Option Unsupported

/-- Carries out steps until one is refused. -/
def takeAll (t : Table) : List Step → Run
  | [] => ⟨t, [], none⟩
  | s :: rest =>
    match t.take s with
    | (notices, .ok t') =>
      let run := takeAll t' rest
      { run with notices := notices ++ run.notices }
    -- What the steps before have registered stays: nothing is taken back.
    | (notices, .error e) => ⟨t, notices, some e⟩

/-- Carries out a plan: what it leads to, unless a step is refused before. -/
def carryOut {α : Type} (t : Table) (p : Plan α) : Table × List Notice × Except Unsupported α :=
  let run := t.takeAll p.steps
  (run.table, run.notices, match run.stopped with
    | some e => .error e
    | none => p.result)

end Table

end SolidityWire
