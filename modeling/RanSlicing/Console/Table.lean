/-
Tables in a box.

Each column is as wide as its widest cell, with a blank on both sides.  The heading stands apart
from the rows by a double line, and the rows from one another by a dotted one.
-/
import RanSlicing.SortedMap

namespace RanSlicing.Console.Table

/-- A text repeated. -/
def repeated (n : Nat) (s : String) : String := String.join (List.replicate n s)

/-- The width of each column. -/
def widths (rows : List (List String)) : List Nat :=
  rows.foldl (fun widest row => (List.range (max widest.length row.length)).map fun i =>
    max (widest.getD i 0) ((row[i]?).map String.length |>.getD 0)) []

/-- A line across the table. -/
def rule (left stroke crossing right : String) (widths : List Nat) : String :=
  left ++ String.intercalate crossing (widths.map fun w => repeated (w + 2) stroke) ++ right

/-- A row of the table. -/
def row (widths : List Nat) (cells : List String) : String :=
  let padded := widths.zipIdx.map fun (w, i) =>
    let cell := cells.getD i ""
    " " ++ cell ++ repeated (w - cell.length) " " ++ " "
  "│" ++ String.intercalate "┆" padded ++ "│"

/-- The lines of a table. -/
def lines (heading : List String) (rows : List (List String)) : List String :=
  let widths := widths (heading :: rows)
  let body := (rows.map (row widths)).intersperse (rule "├" "╌" "┼" "┤" widths)
  [rule "┌" "─" "┬" "┐" widths, row widths heading, rule "╞" "═" "╪" "╡" widths] ++ body ++
    [rule "└" "─" "┴" "┘" widths]

end RanSlicing.Console.Table
