/-
Ranges of units, as an operator asks for them.

A range has two inclusive ends, and one of its values asks for nothing.  A range with a negative
end holds no unit at all, whatever the other end is.
-/
import RanSlicing.Fault
import RanSlicing.Text.Blank
import RanSlicing.Text.Split

namespace RanSlicing

open Number (intText readInt64)

/-- The units from `min` to `max`, both included. -/
structure Range where
  min : Int
  max : Int
  deriving DecidableEq, Repr, Inhabited

namespace Range

/-- The range that asks for nothing. -/
def none : Range := ⟨-1, -1⟩

/-- Whether the range asks for nothing. -/
def isNone (r : Range) : Bool := r == none

/-- Whether a unit lies in the range. -/
def holds (r : Range) (unit : Nat) : Bool :=
  0 ≤ r.min && 0 ≤ r.max && r.min ≤ unit && (unit : Int) ≤ r.max

/-- The text of a range. -/
def text (r : Range) : String :=
  if r.isNone then "none" else intText r.min ++ "-" ++ intText r.max

/-- Reads one end of the range written as `whole`. -/
def readEnd (whole part : List Char) : Except Fault Int :=
  (readInt64 (Text.trim part)).mapError fun e => .rangeText (String.ofList whole) e

/-- Reads a range: the word for none, two ends around a dash, or a single unit. -/
def ofText? (s : String) : Except Fault Range := do
  let whole := Text.trim s.toList
  if whole.map Char.toLower = ['n', 'o', 'n', 'e'] then .ok none
  else match Text.splitOnce ['-'] whole with
    | some (min, max) => .ok ⟨← readEnd whole min, ← readEnd whole max⟩
    | Option.none => do
      let unit ← readEnd whole whole
      .ok ⟨unit, unit⟩

end Range

end RanSlicing
