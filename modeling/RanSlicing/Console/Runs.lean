/-
The units of a mask as runs.

Units that follow one another are written as one run, so that an operator sees at a glance what
a slice holds: `0-3,8-9,11`.
-/
import RanSlicing.Mask

namespace RanSlicing

open Number (natText)

/-- The units from the first to the last. -/
structure Run where
  first : Nat
  last : Nat
  deriving DecidableEq, Repr

namespace Run

/-- The runs with a unit put before them, which is lower than all of theirs. -/
def extend (unit : Nat) : List Run → List Run
  | [] => [⟨unit, unit⟩]
  | run :: rest =>
    if unit + 1 = run.first then ⟨unit, run.last⟩ :: rest else ⟨unit, unit⟩ :: run :: rest

/-- The runs of ascending units. -/
def ofUnits (units : List Nat) : List Run := units.foldr extend []

/-- The text of a run. -/
def text (r : Run) : String :=
  if r.first = r.last then natText r.first else natText r.first ++ "-" ++ natText r.last

end Run

namespace Mask

/-- The runs of a mask. -/
def runs (m : Mask) : List Run := Run.ofUnits m.units

/-- The text of the runs of a mask; a dash if there are none. -/
def runsText (m : Mask) : String :=
  if m.runs.isEmpty then "-" else String.intercalate "," (m.runs.map Run.text)

end Mask

end RanSlicing
