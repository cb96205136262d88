/-
The reserved words of Solidity and the names that are safe to declare.
-/

namespace SolidityWire.Solidity

/-- Reserved words other than the sized types. -/
def plainWords : List String :=
  ["abstract", "after", "alias", "anonymous", "as", "assembly", "break",
    "catch", "constant", "continue", "constructor", "contract", "delete",
    "do", "else", "emit", "enum", "error", "event", "external", "fallback",
    "for", "function", "if", "immutable", "import", "indexed", "interface",
    "internal", "is", "library", "mapping", "memory", "modifier", "new",
    "override", "payable", "pragma", "private", "public", "pure", "receive",
    "return", "returns", "revert", "storage", "struct", "throw", "try",
    "type", "unchecked", "using", "virtual", "view", "while", "addmod",
    "blockhash", "ecrecover", "keccak256", "mulmod", "sha256", "ripemd160",
    "block", "msg", "tx", "balance", "transfer", "send", "call", "delegatecall",
    "staticcall", "this", "super", "gwei", "finney", "szabo", "ether", "seconds",
    "minutes", "hours", "days", "weeks", "years", "wei", "hex", "address",
    "bool", "bytes", "string", "int", "uint", "true", "false", "calldata"]

/-- The integer types, by their width in bits, and the byte arrays, by their length. -/
def sizedWords : List String :=
  (List.range 32).flatMap fun n =>
    ["int" ++ toString (8 * (n + 1)), "uint" ++ toString (8 * (n + 1)), "bytes" ++ toString (n + 1)]

/-- The reserved words. -/
def reservedWords : List String :=
  plainWords ++ sizedWords

/-- Whether the name is a reserved word. -/
def isReserved (name : String) : Bool :=
  reservedWords.contains name

/-- A name that can be declared: a reserved word gets an underscore. -/
def safeName (name : String) : String :=
  if isReserved name then name ++ "_" else name

end SolidityWire.Solidity
