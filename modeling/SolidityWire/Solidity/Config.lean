/-
The options of a library, and which of them can be honoured.
-/
import SolidityWire.Error

namespace SolidityWire.Solidity

/-- The binary formats that can be asked for. -/
inductive Encoding where
  | bcs | bincode
  deriving DecidableEq, Inhabited, Repr

/-- The name of a binary format. -/
def Encoding.name : Encoding → String
  | bcs => "bcs"
  | bincode => "bincode"

/-- The binary format of a name. -/
def Encoding.ofName? (name : String) : Option Encoding :=
  [bcs, bincode].find? (·.name == name)

/-- The options of a library. -/
structure Config where
  moduleName : String
  encodings : List Encoding := [.bcs]
  cStyleEnums : Bool := false
  version : String := "^0.8.0"
  license : String := "UNLICENSED"
  deriving Inhabited

/-! ## Module names -/

/-- A character that may begin a module's name. -/
def isModuleStart (c : Char) : Bool :=
  c.isAlpha || c = '_' || c = '$'

/-- A character that may follow in a module's name. -/
def isModulePart (c : Char) : Bool :=
  isModuleStart c || c.isDigit

/-- The text without a line feed at its end. -/
def dropFinalNewline (cs : List Char) : List Char :=
  if cs.getLast? = some '\n' then cs.dropLast else cs

/-- Whether the name is an ASCII identifier, dollar signs included; one line feed at the end is
passed over. -/
def isModuleName (name : String) : Bool :=
  match dropFinalNewline name.toList with
  | [] => false
  | c :: cs => isModuleStart c && cs.all isModulePart

/-! ## Validation -/

namespace Config

/-- The requested binary formats that are not supported, each once, in the order of their names. -/
def unsupportedEncodings (config : Config) : List String :=
  if config.encodings.contains .bincode then [Encoding.bincode.name] else []

/-- The first conflict of the options, if there is one. -/
def conflict? (config : Config) : Option ConfigConflict :=
  if !isModuleName config.moduleName then some (.badModuleName config.moduleName)
  else if config.cStyleEnums then some .cStyleEnums
  else if !config.unsupportedEncodings.isEmpty then
    some (.unsupportedEncodings config.unsupportedEncodings)
  else none

/-- Refuses options that cannot be honoured. -/
def validate (config : Config) : Except Error Unit :=
  match config.conflict? with
  | some c => .error (.conflict c)
  | none => .ok ()

end Config

end SolidityWire.Solidity
