/-
The policy record: one line for each slice, kept by several hands.

A line `slice::code` gives a slice its policy, and the last line for a slice counts.  Blank lines
and lines that begin with `#` say nothing.  The record is also written by people, so updating
it keeps every line it need not change: the first line of a slice takes the new code in place,
later lines of that slice go, and slices that had no line get one at the end.
-/
import RanSlicing.Policy
import RanSlicing.Text.Split

namespace RanSlicing.PolicyRecord

open Number (natText readNat readWord)

/-- What a line of the record says: the policy of a slice, or nothing. -/
def readLine (line : List Char) : Except Fault (Option (Nat × Policy)) :=
  let line := Text.trim line
  if line = [] ∨ line.head? = some '#' then .ok none
  else match Text.splitOnce [':', ':'] line with
    | none => .error (.policyLine (String.ofList line))
    | some (before, after) => do
      let slice ← (readWord (Text.trim before)).mapError fun _ =>
        .policySliceText (String.ofList (Text.trim before))
      let code ← (readNat 255 (Text.trim after)).mapError fun _ =>
        .policyCodeText (String.ofList (Text.trim after))
      let policy ← Policy.ofCode? code
      .ok (some (slice, policy))

/-- Reads lines, the first of which has the number `number`, into a table. -/
def readLines (path : Path) (number : Nat) (table : PolicyTable) :
    List (List Char) → Except Fault PolicyTable
  | [] => .ok table
  | line :: rest =>
    match readLine line with
    | .error e => .error (.policyRecord path number e)
    | .ok none => readLines path (number + 1) table rest
    | .ok (some (slice, policy)) =>
      readLines path (number + 1) (table.insert slice policy) rest

/-- The table with round-robin for every slice below `tenants` that has no policy. -/
def fillIn (tenants : Nat) (table : PolicyTable) : PolicyTable :=
  (List.range tenants).foldl
    (fun t slice => if t.contains slice then t else t.insert slice .roundRobin) table

/-- Reads the record at `path`. -/
def read (path : Path) (tenants : Nat) (record : String) : Except Fault PolicyTable :=
  (readLines path 1 .empty (Text.lines record.toList)).map (fillIn tenants)

/-- The line of a slice. -/
def line (slice : Nat) (policy : Policy) : List Char :=
  (natText slice).toList ++ [':', ':'] ++ (natText policy.code).toList

/-- The lines of a record brought up to date with `table`, where the slices in `written` have
their line already. -/
def updateLines (table : PolicyTable) (written : List Nat) :
    List (List Char) → List (List Char)
  | [] => (table.entries.filter fun e => !written.contains e.1).map fun e => line e.1 e.2
  | old :: rest =>
    match readLine old with
    | .ok (some (slice, _)) =>
      match table.get? slice with
      | some policy =>
        if written.contains slice then updateLines table written rest
        else line slice policy :: updateLines table (slice :: written) rest
      | none => old :: updateLines table written rest
    | _ => old :: updateLines table written rest

/-- The record brought up to date with `table`. -/
def update (record : String) (table : PolicyTable) : String :=
  String.ofList ((updateLines table [] (Text.lines record.toList)).flatMap (· ++ ['\n']))

end RanSlicing.PolicyRecord
