/-
Computations that report their progress: the notices in order, also those of a computation that
fails in the end.
-/
import SolidityWire.Error
import SolidityWire.Notice

namespace SolidityWire

/-- Notices together with what they lead to. -/
structure Reported (α : Type) where
  notices : List Notice
  result : Except Error α

namespace Reported

/-- First one computation, then the one that its result chooses. -/
def andThen {α β : Type} (r : Reported α) (f : α → Reported β) : Reported β :=
  match r.result with
  | .error e => ⟨r.notices, .error e⟩
  | .ok a => ⟨r.notices ++ (f a).notices, (f a).result⟩

instance : Monad Reported where
  pure a := ⟨[], .ok a⟩
  bind := andThen

/-- Reports a notice. -/
def report (n : Notice) : Reported Unit :=
  ⟨[n], .ok ()⟩

/-- A computation that reports nothing. -/
def ofExcept {α : Type} (r : Except Error α) : Reported α :=
  ⟨[], r⟩

end Reported

end SolidityWire
