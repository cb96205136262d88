/-
Loading registries from documents and from YAML texts, with a report of how many containers there
are.
-/
import SolidityWire.Reported
import SolidityWire.Schema.Reader
import SolidityWire.Yaml.Document

namespace SolidityWire

/-- Loads a registry from a document; an empty document is not worth a notice. -/
def Registry.load (document : Value) : Reported Registry :=
  match Registry.ofValue document with
  | .error fault => ⟨[], .error (.ofFault fault)⟩
  | .ok r =>
    ⟨match document with
      | .null => []
      | _ => [.parsed r.length], .ok r⟩

/-- Loads a registry from a YAML text. -/
def Registry.loadText (text : String) : Reported Registry := do
  Registry.load (← Reported.ofExcept ((Yaml.load text).mapError Error.ofYaml))

end SolidityWire
