/-
The table of metrics that the radio stack writes for one user.

The first line that is not blank names the columns, each further one is a row, and only the
last rows count.  The user's slice is read from the first row that counts.  A cell gives a
sample if its column has a name, is neither the slice column nor the time, and the cell is a
finite number; every other cell is passed over.
-/
import RanSlicing.Number.Decimal
import RanSlicing.Telemetry.Settings
import RanSlicing.Telemetry.Window
import RanSlicing.Text.Blank
import RanSlicing.Text.Split

namespace RanSlicing.MetricsTable

open Number (readFloat readWord)

/-- The column that holds the slice. -/
def sliceColumn : String := "slice_id"

/-- The column that holds the time. -/
def timeColumn : String := "Timestamp"

/-- The cells of a line. -/
def cells (line : List Char) : List (List Char) := line.splitOn ','

/-- The columns a header names. -/
def columns (header : List Char) : List String :=
  (cells header).map fun c => String.ofList (Text.trim c)

/-- The slice a cell names: an integer, or a fraction that is a whole number. -/
def readSlice? (cell : List Char) : Option Nat :=
  match readWord cell with
  | .ok slice => some slice
  | .error _ =>
    match readFloat cell with
    | some x => if x.isFinite && 0.0 ≤ x && x.floor == x then some x.toUInt64.toNat else none
    | none => none

/-- The sample in a cell. -/
def readSample? (cell : List Char) : Option Float :=
  (readFloat (Text.trim cell)).filter Float.isFinite

/-- Whether the cells of a column are samples. -/
def isMetric (slicePosition : Nat) (position : Nat) (name : String) : Bool :=
  name ≠ "" && position ≠ slicePosition && name ≠ timeColumn

/-- The samples of a row, with the columns they stand in. -/
def rowSamples (columns : List String) (slicePosition : Nat) (row : List Char) :
    List (String × Float) :=
  (columns.zip (cells row)).zipIdx.filterMap fun ((name, cell), position) =>
    if isMetric slicePosition position name then
      (readSample? cell).map fun value => (name, value)
    else none

/-- The last `rows` of some lines. -/
def trailing (rows : Nat) (data : List (List Char)) : List (List Char) :=
  data.drop (data.length - rows)

/-- Reads the table of a user.  A table without a row that counts says nothing. -/
def read (user : String) (rows : Nat) (content : String) :
    Except TableFault (Option UserRecord) :=
  match (Text.lines content.toList).filter (Text.trim · ≠ []) with
  | [] => .ok none
  | header :: data =>
    let columns := columns header
    match columns.idxOf? sliceColumn with
    | none => .error .noSliceColumn
    | some slicePosition =>
      match trailing rows data with
      | [] => .ok none
      | first :: more =>
        let cell := Text.trim ((cells first).getD slicePosition [])
        match readSlice? cell with
        | none => .error (.sliceCell (String.ofList cell))
        | some slice =>
          let samples := (first :: more).flatMap (rowSamples columns slicePosition)
          .ok (some (samples.foldl (fun u s => u.push s.1 s.2) (.empty user slice)))

end RanSlicing.MetricsTable
