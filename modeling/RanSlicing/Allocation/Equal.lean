/-
Splitting the pool evenly.

Each slice in turn takes the lowest units that are still free, as many as the limit allows each
slice.  Three slices cannot share most pools without a remainder, and the first and the last of
three take one unit more if there is one left.
-/
import RanSlicing.Pool
import RanSlicing.SortedMap

namespace RanSlicing

/-- The map that gives the first mask to slice 0, the next to slice 1, and so on. -/
def SliceMap.ofMasks (masks : List Mask) : SliceMap Mask :=
  SortedMap.ofList (masks.zipIdx.map fun (mask, slice) => (slice, mask))

namespace Allocation

/-- The number of slices whose outer two take an extra unit. -/
def extraUnitTenants : Nat := 3

/-- How many units a slice may take. -/
def quota (pool : Pool) (tenants slice : Nat) : Nat :=
  pool.limit / tenants +
    if tenants = extraUnitTenants ∧ (slice = 0 ∨ slice + 1 = tenants) then 1 else 0

/-- The masks that the listed slices take in turn when `claimed` is taken already. -/
def deal (pool : Pool) (tenants : Nat) (claimed : Mask) : List Nat → Except Fault (List Mask)
  | [] => .ok []
  | slice :: rest => do
    let free := claimed.freeBelow pool.limit
    let mask ← Mask.ofUnits pool.size (free.take (quota pool tenants slice))
    let masks ← deal pool tenants (claimed.merge mask) rest
    .ok (mask :: masks)

/-- The masks of an even split of the pool. -/
def equal (pool : Pool) (tenants : Nat) : Except Fault (SliceMap Mask) :=
  if tenants = 0 then .error .noTenants
  else if pool.limit < tenants then .error (.tooFewUnits pool.limit tenants)
  else (deal pool tenants pool.emptyMask (List.range tenants)).map SliceMap.ofMasks

end Allocation

end RanSlicing
