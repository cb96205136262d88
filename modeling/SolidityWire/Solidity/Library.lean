/-
The library of a registry: the source unit with one group of declarations for each shape. It is written as a
whole, and not before there is all of it.
-/
import SolidityWire.Shape.OfRegistry
import SolidityWire.Solidity.Config
import SolidityWire.Solidity.Shapes

namespace SolidityWire.Solidity

/-- The source unit of a table. -/
def Source.ofTable (t : Table) (config : Config) : Except Error Source := do
  let groups ← t.shapes.mapM (declarations t)
  return {
    license := config.license
    version := config.version
    functions := [encodeLength, decodeLength]
    library := config.moduleName
    groups := groups }

/-- The text of a table's source unit. -/
def writeTable (t : Table) (config : Config) : Except Error String :=
  (Source.ofTable t config).map Source.text

/-- The source text of a registry, for options that were found valid. -/
def generate (config : Config) (r : Registry) : Reported String := do
  let table ← r.lower
  let text ← Reported.ofExcept (writeTable table config)
  Reported.report (.generated config.moduleName table.size)
  return text

/-! ## Generators -/

/-- Options that were found valid. -/
structure Generator where
  config : Config
  valid : config.validate = .ok ()

/-- The generator for some options, unless they cannot be honoured. -/
def Generator.ofConfig (config : Config) : Except Error Generator :=
  match valid : config.validate with
  | .ok () => .ok ⟨config, valid⟩
  | .error e => .error e

/-- What has been written so far, one text for each write. -/
structure Sink where
  writes : List String := []
  deriving Inhabited

/-- The sink after one more write. -/
def Sink.write (sink : Sink) (text : String) : Sink :=
  { sink with writes := sink.writes ++ [text] }

/-- Writes the source text of a registry, once there is one. -/
def Generator.output (g : Generator) (r : Registry) (sink : Sink) : Sink × Reported Unit :=
  let source := generate g.config r
  match source.result with
  | .ok text => (sink.write text, ⟨source.notices, .ok ()⟩)
  | .error e => (sink, ⟨source.notices, .error e⟩)

end SolidityWire.Solidity
