/-
Tokens: what a text is made of, with the structure that indentation expresses made explicit.
-/
import SolidityWire.Yaml.Fault

namespace SolidityWire.Yaml

/-- A directive; those of unknown name are without effect. -/
inductive Directive where
  | version (major : Nat)
  | handle (name expansion : String)
  | other
  deriving DecidableEq, Inhabited, Repr

/-- A token. The text of a scalar is decoded; a plain scalar is one without quotes. Where reading
has to stop, the fault is the last token. -/
inductive Token where
  | directive (d : Directive)
  | documentStart
  | documentEnd
  | blockSequence
  | blockMapping
  | blockEnd
  | flowSequence
  | flowSequenceEnd
  | flowMapping
  | flowMappingEnd
  | blockEntry
  | flowEntry
  | key
  | value
  | alias (name : String)
  | anchor (name : String)
  | tag (handle : Option String) (suffix : String)
  | scalar (plain : Bool) (text : String)
  | finish
  | fault (f : Fault)
  deriving DecidableEq, Inhabited, Repr

end SolidityWire.Yaml
