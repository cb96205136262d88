/-
Paths of files: their plain form, and the name of a file without its extension.
-/

namespace SolidityWire.CommandLine

/-- The parts of a path that lead anywhere. -/
def pathParts (path : String) : List String :=
  ((path.toList.splitOn '/').map String.ofList).filter fun part => part ≠ "" ∧ part ≠ "."

/-- The root that a path begins with: exactly two slashes are a root of their own. -/
def pathRoot (path : String) : String :=
  match path.toList with
  | '/' :: '/' :: '/' :: _ => "/"
  | '/' :: '/' :: _ => "//"
  | '/' :: _ => "/"
  | _ => ""

/-- The path without parts that lead nowhere. -/
def plainPath (path : String) : String :=
  let plain := pathRoot path ++ "/".intercalate (pathParts path)
  if plain.isEmpty then "." else plain

/-- The name without its extension: a point at the start or the end begins none. -/
def dropExtension (name : String) : String :=
  let cs := name.toList.reverse
  let ending := cs.takeWhile (· ≠ '.')
  match cs.dropWhile (· ≠ '.') with
  | _ :: front =>
    if ending.isEmpty || front.isEmpty then name else String.ofList front.reverse
  | [] => name

/-- The name of a path's last part without its extension. -/
def pathStem (path : String) : String :=
  dropExtension ((pathParts path).getLast?.getD "")

end SolidityWire.CommandLine
