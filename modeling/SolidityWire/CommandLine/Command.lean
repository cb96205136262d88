/-
Commands: what the arguments of the program ask for.
-/
import SolidityWire.CommandLine.Flag

namespace SolidityWire.CommandLine

/-! ## Types -/

/-- A command. -/
inductive Command where
  | generate (input : String) (output moduleName : Option String) (version license : String)
  | inspect (input : String)
  deriving DecidableEq, Inhabited, Repr

/-- What arguments ask for: help, nothing that makes sense, or a command; the verbosity says how
many notices are wanted. -/
inductive Request where
  | help
  | misuse
  | run (verbosity : Nat) (command : Command)
  deriving DecidableEq, Inhabited, Repr

/-! ## Flags -/

/-- Asks for help. -/
def helpFlag : Flag := { short := "-h", long := "--help" }

/-- Asks for more notices. -/
def verboseFlag : Flag := { short := "-v", long := "--verbose" }

/-- Says where the library goes. -/
def outputFlag : Flag := { short := "-o", long := "--output", takesValue := true }

/-- Says how the library is called. -/
def moduleFlag : Flag := { long := "--module-name", takesValue := true }

/-- Says which compilers the library is for. -/
def versionFlag : Flag := { long := "--solidity-version", takesValue := true }

/-- Says under which license the library is. -/
def licenseFlag : Flag := { long := "--license", takesValue := true }

/-- The options before the command. -/
def commonFlags : List Flag := [helpFlag, verboseFlag]

/-- The options for generating. -/
def generateFlags : List Flag := [helpFlag, outputFlag, moduleFlag, versionFlag, licenseFlag]

/-- The options for inspecting. -/
def inspectFlags : List Flag := [helpFlag]

/-! ## Arguments of a command -/

/-- What the arguments of a command say: help, nothing that makes sense, or an operand with options,
the latest first. -/
inductive Said where
  | help
  | misuse
  | operand (input : String) (uses : List Use)

/-- The arguments of a command so far: its operand, whether that was the argument just before,
whether there was one too many, and the options, the latest first. -/
structure Heard where
  input : Option String := none
  justBefore : Bool := false
  tooMany : Bool := false
  uses : List Use := []

/-- What the arguments say that were heard so far. -/
def Heard.said (h : Heard) : Said :=
  match h.input, h.tooMany with
  | some input, false => .operand input h.uses
  | _, _ => .misuse

/-- What the arguments say if two hyphens end the options before the given ones. They may stand only
right before or right behind the operand. -/
def Heard.saidWith (h : Heard) (operands : List String) : Said :=
  match h.input, operands with
  | none, [input] => { h with input := some input }.said
  | some _, [] => if h.justBefore then h.said else .misuse
  | _, _ => .misuse

/-- Reads the arguments of a command. -/
def hear (flags : List Flag) : (fuel : Nat) → Heard → List String → Said
  | 0, h, _ => h.said
  | _ + 1, h, [] => h.said
  | fuel + 1, h, arg :: rest =>
    if arg = "--" then h.saidWith rest
    else
      match classify flags arg with
      | .ambiguous => .misuse
      | .unknown => hear flags fuel { h with tooMany := true, justBefore := false } rest
      | .operand =>
        if h.input.isNone then hear flags fuel { h with input := some arg, justBefore := true } rest
        else hear flags fuel { h with tooMany := true, justBefore := false } rest
      | .flag f name attached =>
        match uses flags f name attached rest with
        | none => .misuse
        | some (us, rest) =>
          if us.any fun (f, _) => f = helpFlag then .help
          else hear flags fuel { h with uses := us.reverse ++ h.uses, justBefore := false } rest

/-- The value that was given last for an option. -/
def valueOf (us : List Use) (f : Flag) : Option String :=
  (us.lookup f).join

/-! ## Requests -/

/-- The flags and the meaning of a command's name. -/
def commandNamed? (name : String) : Option (List Flag × (String → List Use → Command)) :=
  match name with
  | "generate" =>
    some (generateFlags, fun input us =>
      .generate input (valueOf us outputFlag) (valueOf us moduleFlag)
        ((valueOf us versionFlag).getD "^0.8.0") ((valueOf us licenseFlag).getD "UNLICENSED"))
  | "inspect" => some (inspectFlags, fun input _ => .inspect input)
  | _ => none

/-- The request of a command with its arguments, after the given number of options for more notices;
an unknown option before the command spoils it, but not a call for help. -/
def requestOf (verbosity : Nat) (spoilt : Bool) (name : String) (args : List String) : Request :=
  match commandNamed? name with
  | none => .misuse
  | some (flags, make) =>
    match hear flags (args.length + 1) {} args with
    | .help => .help
    | .misuse => .misuse
    | .operand input us => if spoilt then .misuse else .run verbosity (make input us)

/-- Reads the arguments up to the command; without a command they ask for help. -/
def readArguments (verbosity : Nat) (spoilt : Bool) : List String → Request
  | [] => if spoilt then .misuse else .help
  | arg :: rest =>
    if arg = "--" then .misuse
    else
      match classify commonFlags arg with
      | .ambiguous => .misuse
      | .unknown => readArguments verbosity true rest
      | .operand => requestOf verbosity spoilt arg rest
      | .flag f name attached =>
        match uses commonFlags f name attached [] with
        | none => .misuse
        | some (us, _) =>
          if us.any fun (f, _) => f = helpFlag then .help
          else readArguments (verbosity + us.length) spoilt rest

/-- Whether the argument is a shortened option that more than one may be meant by. -/
def isAmbiguous (arg : String) : Bool :=
  match classify commonFlags arg with
  | .ambiguous => true
  | _ => false

/-- What the arguments ask for. An ambiguous one spoils everything. -/
def Request.ofArguments (args : List String) : Request :=
  if (args.takeWhile (· ≠ "--")).any isAmbiguous then .misuse else readArguments 0 false args

end SolidityWire.CommandLine
