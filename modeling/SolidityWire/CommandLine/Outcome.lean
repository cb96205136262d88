/-
What a command does with the file that it is given: what it writes where, and how it ends.
-/
import SolidityWire.CommandLine.Command
import SolidityWire.CommandLine.Listing
import SolidityWire.CommandLine.Path
import SolidityWire.Schema.Load
import SolidityWire.Shape.OfRegistry
import SolidityWire.Solidity.Library
import SolidityWire.Text.Utf8

namespace SolidityWire.CommandLine

/-! ## Types -/

/-- What there is at a path. -/
inductive Entry where
  | missing
  | directory
  | file (content : List UInt8)
  deriving DecidableEq, Inhabited, Repr

/-- Why a command breaks off without a message of its own. -/
inductive Breakdown where
  | isDirectory
  | invalidUtf8
  | brokenMarkup (f : MarkupFault)
  | failed (e : Error)
  deriving Inhabited

/-- What a command does: the texts for the two channels, the file to write if there is one, and the
exit code unless it breaks down. -/
structure Outcome where
  output : String := ""
  log : String := ""
  written : Option (String × String) := none
  ending : Except Breakdown Nat

/-! ## Reading -/

/-- The text with every line break written as a line feed. -/
def unifyBreaks : List Char → List Char
  | '\r' :: '\n' :: cs => '\n' :: unifyBreaks cs
  | '\r' :: cs => '\n' :: unifyBreaks cs
  | c :: cs => c :: unifyBreaks cs
  | [] => []

/-- The text of a file. -/
def fileText (content : List UInt8) : Except Breakdown String :=
  match Text.Utf8.decode? content with
  | some cs => .ok (String.ofList (unifyBreaks cs))
  | none => .error .invalidUtf8

/-! ## Messages -/

/-- The line of a failure, whose words are markup. -/
def failureLine (words : String) : Except Breakdown String :=
  match showMarkup ("[bold red]Error:[/bold red] " ++ words) with
  | .ok line => .ok (line ++ "\n")
  | .error f => .error (.brokenMarkup f)

/-- Whether failures of the kind have a message for the user. -/
def isExplained : Error → Bool
  | .unreadable _ | .unwritable _ | .beyond _ => false
  | _ => true

/-- The line of a failure, or the breakdown that it is. -/
def explain (e : Error) : Except Breakdown String :=
  if isExplained e then failureLine (escapeMarkup e.message) else .error (.failed e)

/-- The line for a path that leads nowhere. The path is markup as well. -/
def missingLine (path : String) : Except Breakdown String :=
  failureLine ("File '" ++ plainPath path ++ "' does not exist")

/-- The least level of the notices that are wanted. -/
def leastLevel (verbosity : Nat) : Level :=
  match verbosity with
  | 0 => .warning
  | 1 => .info
  | _ => .debug

/-- The log of the notices that are wanted. -/
def logText (verbosity : Nat) (notices : List Notice) : String :=
  let wanted := notices.filter fun n => (leastLevel verbosity).rank ≤ n.level.rank
  String.join (wanted.map fun n => n.line ++ "\n")

/-! ## Commands -/

/-- The outcome of a computation on the text of a file: `failed` puts a line for the user on a
channel, and `done` says what follows a result. -/
def outcomeOf {α : Type} (verbosity : Nat) (entry : Entry) (missing : Except Breakdown String)
    (work : String → Reported α) (failed : String → Outcome) (done : α → Outcome) : Outcome :=
  let explained (r : Except Breakdown String) : Outcome :=
    match r with
    | .ok line => failed line
    | .error b => { ending := .error b }
  match entry with
  | .missing => explained missing
  | .directory => { ending := .error .isDirectory }
  | .file content =>
    match fileText content with
    | .error b => { ending := .error b }
    | .ok text =>
      let r := work text
      let outcome := match r.result with
        | .ok a => done a
        | .error e => explained (explain e)
      { outcome with log := logText verbosity r.notices ++ outcome.log }

/-- The source text of a library for the registry in a text. -/
def generateText (config : Solidity.Config) (text : String) : Reported String := do
  let registry ← Registry.loadText text
  Reported.ofExcept config.validate
  Solidity.generate config registry

/-- Generates a library; without a name it is called like the file. Failures go to the log. -/
def generateOutcome (verbosity : Nat) (entry : Entry) (input : String) (output : Option String)
    (config : Solidity.Config) : Outcome :=
  outcomeOf verbosity entry (missingLine input) (generateText config)
    (fun line => { log := line, ending := .ok 1 })
    (fun source =>
      match output with
      | none => { output := source, ending := .ok 0 }
      | some path => { written := some (path, source), ending := .ok 0 })

/-- Lists the shapes of a registry. Failures go where the listing would. -/
def inspectOutcome (verbosity : Nat) (entry : Entry) (input : String) : Outcome :=
  outcomeOf verbosity entry (missingLine input)
    (fun text => Registry.loadText text >>= Registry.lower)
    (fun line => { output := line, ending := .ok 1 })
    (fun table =>
      match listingLines table with
      | .ok lines => { output := String.join (lines.map (· ++ "\n")), ending := .ok 0 }
      | .error f => { ending := .error (.brokenMarkup f) })

/-- The path of the file that a command reads. -/
def Command.input : Command → String
  | .generate input .. => input
  | .inspect input => input

/-- The options of the library that a command asks for; an empty name counts as none. -/
def libraryConfig (input : String) (moduleName : Option String) (version license : String) :
    Solidity.Config :=
  let name := moduleName.getD ""
  { moduleName := if name.isEmpty then pathStem input else name, version, license }

/-- What a command does, given what there is at the path of its input. -/
def Command.outcome (verbosity : Nat) (entry : Entry) : Command → Outcome
  | .generate input output moduleName version license =>
    generateOutcome verbosity entry input output (libraryConfig input moduleName version license)
  | .inspect input => inspectOutcome verbosity entry input

end SolidityWire.CommandLine
