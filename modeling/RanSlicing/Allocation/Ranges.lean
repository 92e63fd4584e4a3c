/-
Giving each slice the range that was asked for it.

A slice for which nothing is asked keeps the mask it has, if that holds a unit; otherwise it
gets a mask without units.  A range reaches beyond the limit in vain.
-/
import RanSlicing.Pool
import RanSlicing.Range
import RanSlicing.SortedMap

namespace RanSlicing.Allocation

/-- The range asked for a slice. -/
def asked (ranges : SliceMap Range) (slice : Nat) : Range := (ranges.get? slice).getD .none

/-- Whether a slice keeps the mask it has. -/
def keeps (ranges : SliceMap Range) (persisted : SliceMap Mask) (slice : Nat) : Bool :=
  (asked ranges slice).isNone &&
    match persisted.get? slice with
    | some mask => !mask.isUnassigned
    | none => false

/-- The mask of the claimable units in a range. -/
def rangeMask (pool : Pool) (r : Range) : Except Fault Mask :=
  Mask.ofUnits pool.size ((List.range pool.limit).filter r.holds)

/-- The masks of the slices that do not keep theirs.  A range for a slice that is not configured
is refused. -/
def ranges (requested : SliceMap Range) (pool : Pool) (tenants : Nat) (persisted : SliceMap Mask) :
    Except Fault (SliceMap Mask) :=
  match requested.keys.find? (tenants ≤ ·) with
  | some slice => .error (.rangeNotConfigured slice tenants)
  | none => do
    let slices := (List.range tenants).filter fun slice => !keeps requested persisted slice
    let masks ← slices.mapM fun slice =>
      (rangeMask pool (asked requested slice)).map fun mask => (slice, mask)
    .ok (SortedMap.ofList masks)

end RanSlicing.Allocation
