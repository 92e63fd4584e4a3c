/-
Moving one slice to a number of units with the fewest bits changed.

A slice that is too small takes free units next to the block it has: first the ones above its
lowest unit, upwards, then the ones below it, downwards.  A slice that is too large lets its
highest units go.  So the units of a slice stay as close together as the others allow.
-/
import RanSlicing.Pool

namespace RanSlicing

/-- What became of a slice that was to have a number of units. -/
inductive AdjustOutcome where
  | unchanged
  | grown (added : List Nat)
  | shrunk (released : List Nat)
  | insufficient (added : List Nat) (reached target : Nat)
  deriving DecidableEq, Repr

/-- The new mask of a slice and how it came about. -/
structure Adjustment where
  mask : Mask
  outcome : AdjustOutcome
  deriving DecidableEq, Repr

namespace Adjustment

/-- Whether the mask differs from the old one. -/
def changed (a : Adjustment) : Bool :=
  match a.outcome with
  | .unchanged => false
  | .grown _ | .shrunk _ => true
  | .insufficient added _ _ => !added.isEmpty

/-- The units that `current` could take in the order in which it would: above its lowest unit
upwards, then below it downwards, without those that are taken. -/
def candidates (current occupied : Mask) (bound : Nat) : List Nat :=
  let free (unit : Nat) := unit < bound && !occupied.isSet unit && !current.isSet unit
  let upwards := match current.first? with
    | some first => (List.range bound).filter (first < ·)
    | none => List.range bound
  let downwards := (List.range (current.first?.getD 0)).reverse
  (upwards ++ downwards).filter free

/-- The mask with further units, as many as the target asks for and the pool has free. -/
def grow (current occupied : Mask) (target : Nat) (pool : Pool) : Adjustment :=
  let bound := min pool.limit current.width
  let added := (candidates current occupied bound).take (target - current.count)
  let reached := current.count + added.length
  { mask := added.foldl (fun m unit => m.put unit true) current
    outcome := if reached = target then .grown added else .insufficient added reached target }

/-- The mask without its highest units, down to the target. -/
def shrink (current : Mask) (target : Nat) : Adjustment :=
  let released := current.units.reverse.take (current.count - target)
  { mask := released.foldl (fun m unit => m.put unit false) current
    outcome := .shrunk released }

end Adjustment

/-- The mask of a slice moved to a number of units, where `occupied` holds the units of every
slice. -/
def Mask.adjust (current occupied : Mask) (target : Nat) (pool : Pool) : Adjustment :=
  if current.count = target then ⟨current, .unchanged⟩
  else if target < current.count then Adjustment.shrink current target
  else Adjustment.grow current occupied target pool

end RanSlicing
