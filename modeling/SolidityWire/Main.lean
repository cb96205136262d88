/-
The program: it reads the file that a command names, and writes what the command says.
-/
import SolidityWire.CommandLine.Outcome

namespace SolidityWire.CommandLine

/-- How the program is called. -/
def usage : String :=
  "usage: solbcs [-h] [-v] COMMAND\n\n" ++
    "commands:\n" ++
    "  generate [-o FILE] [--module-name NAME] [--solidity-version VERSION]\n" ++
    "           [--license LICENSE] INPUT   write a Solidity library for a registry\n" ++
    "  inspect INPUT                        list the types of a registry\n"

/-- The code of the operating system for reading a directory. -/
def directoryCode : UInt32 := 21

/-- What there is at a path. -/
def entryAt (path : String) : IO Entry := do
  try
    return .file (← IO.FS.readBinFile path).toList
  catch e =>
    match e with
    | .noFileOrDirectory .. => return .missing
    | .inappropriateType _ code _ => return if code = directoryCode then .directory else .missing
    | e => throw e

/-- Writes what a command writes and gives the exit code. -/
def carryOut (outcome : Outcome) : IO UInt32 := do
  IO.print outcome.output
  IO.eprint outcome.log
  if let some (path, text) := outcome.written then
    IO.FS.writeFile path text
  match outcome.ending with
  | .ok code => return code.toUInt32
  | .error .isDirectory => throw (IO.userError "the input is a directory")
  | .error .invalidUtf8 => throw (IO.userError "the input is no UTF-8")
  | .error (.brokenMarkup _) => throw (IO.userError "a message cannot be shown")
  | .error (.failed e) => throw (IO.userError e.message)

end SolidityWire.CommandLine

open SolidityWire.CommandLine

/-- Runs the program. -/
def main (args : List String) : IO UInt32 := do
  match Request.ofArguments args with
  | .help =>
    IO.print usage
    return 0
  | .misuse =>
    IO.eprint usage
    return 2
  | .run verbosity command =>
    carryOut (command.outcome verbosity (← entryAt (plainPath command.input)))
