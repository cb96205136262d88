/-
The part of Solidity's syntax that libraries are written in, and its layout: four blanks for each
level, a block's brace on the line of its head.
-/

namespace SolidityWire.Solidity

/-! ## Syntax -/

/-- Where a value lives. -/
inductive Location where
  | stack | memory
  deriving DecidableEq, Inhabited, Repr

/-- The location as it follows a type. -/
def Location.suffix : Location → String
  | stack => ""
  | memory => " memory"

/-- A type and a location. -/
structure Place where
  type : String
  location : Location := .stack
  deriving DecidableEq, Inhabited, Repr

/-- The text of a type and a location. -/
def Place.text (p : Place) : String :=
  p.type ++ p.location.suffix

/-- A parameter or a local variable. -/
structure Variable where
  place : Place
  name : String
  deriving DecidableEq, Inhabited, Repr

/-- The text of a typed name. -/
def Variable.text (v : Variable) : String :=
  v.place.text ++ " " ++ v.name

/-- A statement; a block has one part for each of its heads (`if`, `else if`, `else`). -/
inductive Statement where
  | run (text : String)
  | declare (v : Variable) (value : Option String)
  | block (parts : List (String × List Statement))
  deriving Inhabited

/-- A function. -/
structure Function where
  name : String
  parameters : List Variable
  attributes : String
  results : List Place
  body : List Statement

/-- A declaration of a library; the fields of a struct stand behind their types. -/
inductive Declaration where
  | struct (name : String) (fields : List (String × String))
  | enum (name : String) (members : List String)
  | function (f : Function)

/-- A source unit: free functions, and one library with a group of declarations for each type. -/
structure Source where
  license : String
  version : String
  functions : List Function
  library : String
  groups : List (List Declaration)

/-! ## Layout -/

/-- Four blanks. -/
def tab : String := "    "

/-- The opening brace at the end of a head. -/
def opening : String := " \x7b"

/-- The closing brace. -/
def closing : String := "\x7d"

/-- Lines one level further in. -/
def indent (lines : List String) : List String :=
  lines.map (tab ++ ·)

mutual

/-- The lines of a statement. -/
def Statement.lines : Statement → List String
  | .run text => [text ++ ";"]
  | .declare v none => [v.text ++ ";"]
  | .declare v (some value) => [v.text ++ " = " ++ value ++ ";"]
  | .block parts => partLines "" parts ++ [closing]
termination_by structural s => s

/-- The lines of statements. -/
def Statement.linesOf : List Statement → List String
  | [] => []
  | s :: ss => s.lines ++ Statement.linesOf ss
termination_by structural ss => ss

/-- The lines of the parts of a block; the heads after the first follow a closing brace. -/
def partLines (before : String) : List (String × List Statement) → List String
  | [] => []
  | (head, body) :: parts =>
    (before ++ head ++ opening) :: indent (Statement.linesOf body) ++
      partLines (closing ++ " ") parts
termination_by structural parts => parts

end

/-- The text between two commas of a list. -/
def commaSeparated (parts : List String) : String :=
  ", ".intercalate parts

/-- The head of a function. -/
def Function.head (f : Function) : String :=
  "function " ++ f.name ++ "(" ++ commaSeparated (f.parameters.map Variable.text) ++ ") " ++
    f.attributes ++ " returns (" ++ commaSeparated (f.results.map Place.text) ++ ")"

/-- The lines of a function. -/
def Function.lines (f : Function) : List String :=
  (f.head ++ opening) :: indent (Statement.linesOf f.body) ++ [closing]

/-- The lines of a declaration. -/
def Declaration.lines : Declaration → List String
  | struct name fields =>
    ("struct " ++ name ++ opening) :: indent (fields.map fun (type, field) =>
      type ++ " " ++ field ++ ";") ++ [closing]
  | enum name members =>
    ["enum " ++ name ++ opening ++ " " ++ commaSeparated members ++ " " ++ closing]
  | function f => f.lines

/-- The lines of the declarations of a type. -/
def groupLines (group : List Declaration) : List String :=
  group.flatMap Declaration.lines

/-- The lines of a source unit. -/
def Source.lines (s : Source) : List String :=
  ["/// SPDX-License-Identifier: " ++ s.license, "pragma solidity " ++ s.version ++ ";"] ++
    s.functions.flatMap (fun f => "" :: f.lines) ++
    ["", "library " ++ s.library ++ opening] ++
    s.groups.flatMap (fun group => "" :: indent (groupLines group)) ++
    ["", closing ++ " // end of library " ++ s.library]

/-- The text of a source unit. -/
def Source.text (s : Source) : String :=
  "\n".intercalate s.lines ++ "\n"

end SolidityWire.Solidity
