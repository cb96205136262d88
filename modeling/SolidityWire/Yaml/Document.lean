/-
Documents: the value of a whole text, which is null if the text has no document in it.
-/
import SolidityWire.Yaml.Node.OfTokens
import SolidityWire.Yaml.Node.Value
import SolidityWire.Yaml.Token.Lexer

namespace SolidityWire.Yaml

/-- The value of a text. -/
def load (text : String) : Except Fault Value := do
  match ← Graph.ofTokens (Token.ofText text.toList) with
  | none => return .null
  | some g => g.value

end SolidityWire.Yaml
