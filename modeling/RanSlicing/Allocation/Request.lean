/-
Requests that concern the whole partition, and carrying them out on a store.

A request is decided before the first write: what is refused for its content changes nothing.
The masks are written in the order of the slices, and the first write that fails ends the
request with the masks before it in place.
-/
import RanSlicing.Allocation.Equal
import RanSlicing.Allocation.Overlap
import RanSlicing.Allocation.Ranges
import RanSlicing.Store.Basic

namespace RanSlicing

/-- What is asked of the partition. -/
inductive Request where
  /-- An even split of the pool. -/
  | equal
  /-- A range for each listed slice. -/
  | ranges (ranges : SliceMap Range)
  /-- One mask for one slice, as given. -/
  | full (slice : Nat) (mask : Mask)
  deriving DecidableEq, Repr

namespace Allocation

variable {σ : Type} [Store σ]

/-- Writes masks that were decided on, and answers with them. -/
def carryOut (s : σ) (decided : Except Fault (SliceMap Mask)) :
    Except Fault (SliceMap Mask) × σ :=
  match decided with
  | .error e => (.error e, s)
  | .ok masks =>
    match Store.writeMasks s masks.entries with
    | (.ok (), s) => (.ok masks, s)
    | (.error e, s) => (.error e, s)

/-- Splits the pool evenly. -/
def applyEqual (pool : Pool) (tenants : Nat) (s : σ) : Except Fault (SliceMap Mask) × σ :=
  carryOut s (equal pool tenants)

/-- Gives each slice the range asked for it. -/
def applyRanges (pool : Pool) (tenants : Nat) (requested : SliceMap Range) (s : σ) :
    Except Fault (SliceMap Mask) × σ :=
  carryOut s ((Store.recordedMasks s tenants).bind (ranges requested pool tenants))

/-- Gives one slice a mask. -/
def applyFull (pool : Pool) (tenants slice : Nat) (mask : Mask) (s : σ) :
    Except Fault Unit × σ :=
  if tenants ≤ slice then (.error (.sliceNotConfigured slice tenants), s)
  else if mask.width ≠ pool.size then
    (.error (.maskWidth mask.text mask.width pool.size), s)
  else Store.writeMask s slice mask

/-- Carries out a request and answers with the masks it wrote. -/
def apply (pool : Pool) (tenants : Nat) (s : σ) : Request → Except Fault (SliceMap Mask) × σ
  | .equal => applyEqual pool tenants s
  | .ranges requested => applyRanges pool tenants requested s
  | .full slice mask =>
    match applyFull pool tenants slice mask s with
    | (.ok (), s) => (.ok (SortedMap.ofList [(slice, mask)]), s)
    | (.error e, s) => (.error e, s)

end Allocation

end RanSlicing
