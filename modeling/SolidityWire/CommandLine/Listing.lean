/-
The listing of a table: one row for each shape, in columns. Cells are markup, and a cell of several
lines makes its row as high.
-/
import SolidityWire.CommandLine.Markup
import SolidityWire.Shape.Table

namespace SolidityWire.CommandLine

/-! ## Cells -/

/-- The heads of the columns. -/
def listingHeads : List String :=
  ["Key", "Kind", "Solidity type", "Storage", "Depends on"]

/-- The cells of a shape: its key, its kind, its type, where its values live, and what it depends
on, each once. -/
def shapeCells (t : Table) (s : Shape) : List String :=
  [s.key, s.kindName, s.typeName, if (t.needsMemory? s).getD false then "memory" else "value",
    ", ".intercalate s.dependencies.eraseDups]

/-- The lines of the cells as they are shown, or what is wrong with the markup of one. -/
def shownRow (cells : List String) : Except MarkupFault (List (List String)) :=
  cells.mapM fun cell =>
    (showMarkup cell).map fun text => (text.toList.splitOn '\n').map String.ofList

/-! ## Layout -/

/-- The width that a column of cells needs. -/
def columnWidth (cells : List (List String)) : Nat :=
  (cells.flatten.map String.length).foldl max 0

/-- The widths of the columns. -/
def columnWidths (rows : List (List (List String))) : List Nat :=
  (List.range listingHeads.length).map fun i => columnWidth (rows.filterMap fun row => row[i]?)

/-- A text filled up with spaces. -/
def fillTo (width : Nat) (text : String) : String :=
  text ++ String.ofList (List.replicate (width - text.length) ' ')

/-- The lines of a row. -/
def rowLines (widths : List Nat) (row : List (List String)) : List String :=
  let height := (row.map List.length).foldl max 0
  (List.range height).map fun i =>
    "  ".intercalate ((widths.zip row).map fun (width, cell) => fillTo width (cell[i]?.getD ""))

/-- The rule under the heads. -/
def ruleLine (widths : List Nat) : String :=
  "  ".intercalate (widths.map fun width => String.ofList (List.replicate width '─'))

/-- The lines of a table's listing, or what is wrong with the markup of a cell. -/
def listingLines (t : Table) : Except MarkupFault (List String) := do
  let heads ← shownRow listingHeads
  let rows ← t.shapes.mapM fun s => shownRow (shapeCells t s)
  let widths := columnWidths (heads :: rows)
  return rowLines widths heads ++ ruleLine widths :: rows.flatMap (rowLines widths) ++
    [toString t.size ++ " types"]

end SolidityWire.CommandLine
