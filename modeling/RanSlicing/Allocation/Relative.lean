/-
Moving one slice of a store to a number of units.

A unit is taken if any slice of the store holds it.  The record is written only if the mask
changed.
-/
import RanSlicing.Adjustment
import RanSlicing.Store.Basic

namespace RanSlicing.Allocation

variable {σ : Type} [Store σ]

/-- The units of the pool that one of the masks holds. -/
def occupied (pool : Pool) (masks : List Mask) : Mask := masks.foldl Mask.merge pool.emptyMask

/-- Moves a slice to a number of units. -/
def adjustSlice (pool : Pool) (tenants : Nat) (s : σ) (slice target : Nat) :
    Except Fault Adjustment × σ :=
  if tenants ≤ slice then (.error (.sliceNotConfigured slice tenants), s)
  else match Store.readMasks s tenants with
    | .error e => (.error e, s)
    | .ok masks =>
      let current := masks.getD slice pool.emptyMask
      let adjustment := current.adjust (occupied pool masks) target pool
      if adjustment.changed then
        match Store.writeMask s slice adjustment.mask with
        | (.ok (), s) => (.ok adjustment, s)
        | (.error e, s) => (.error e, s)
      else (.ok adjustment, s)

end RanSlicing.Allocation
