/-
What the program reports about its progress, and how a log line says it.
-/

namespace SolidityWire

/-- The levels of a notice, least urgent first. -/
inductive Level where
  | debug | info | warning
  deriving DecidableEq, Inhabited, Repr

namespace Level

/-- The place of the level in the order of urgency. -/
def rank : Level → Nat
  | debug => 0
  | info => 1
  | warning => 2

/-- The word for the level. -/
def word : Level → String
  | debug => "DEBUG"
  | info => "INFO"
  | warning => "WARNING"

end Level

/-- A step of the program that is worth reporting. -/
inductive Notice where
  | parsed (containers : Nat)
  | entering (container : String)
  | registering (kind key : String)
  | unorderedEntries (pair : String)
  | selfDependent (key : String)
  | lowered (containers shapes : Nat)
  | generated (library : String) (types : Nat)
  deriving DecidableEq, Inhabited, Repr

namespace Notice

/-- How urgent a notice is. -/
def level : Notice → Level
  | unorderedEntries _ => .warning
  | lowered .. | generated .. => .info
  | _ => .debug

/-- The channel on which a notice is reported. -/
def channel : Notice → String
  | parsed _ => "solbcs.schema.serde_yaml"
  | entering _ | unorderedEntries _ | lowered .. => "solbcs.solidity.lowering"
  | registering .. | selfDependent _ => "solbcs.solidity.shapes"
  | generated .. => "solbcs.solidity"

/-- The words of a notice. -/
def text : Notice → String
  | parsed containers => "Parsed registry with " ++ toString containers ++ " containers"
  | entering container => "Lowering container " ++ container
  | registering kind key => "Registering " ++ kind ++ " " ++ key
  | unorderedEntries pair =>
    "Map entries " ++ pair ++ " are emitted without key order validation"
  | selfDependent key => key ++ " depends on itself"
  | lowered containers shapes =>
    "Lowered " ++ toString containers ++ " containers into " ++ toString shapes ++ " shapes"
  | generated library types =>
    "Generated library " ++ library ++ " with " ++ toString types ++ " types"

/-- The line of the log. -/
def line (n : Notice) : String :=
  n.level.word ++ " " ++ n.channel ++ ": " ++ n.text

end Notice

end SolidityWire
