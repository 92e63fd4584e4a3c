/-
The pool: how many units a cell has, and how many of them slices may claim.
-/
import RanSlicing.Mask

namespace RanSlicing

/-- The units of a cell, of which those below the limit can be claimed. -/
structure Pool where
  size : Nat
  limit : Nat
  deriving DecidableEq, Repr, Inhabited

namespace Pool

/-- A pool whose units can all be claimed. -/
def full (size : Nat) : Pool := ⟨size, size⟩

/-- The pool of a cell that is not configured otherwise. -/
def standard : Pool := full 25

/-- Checks that there are units and that the limit is within them. -/
def validate (p : Pool) : Except Fault Unit :=
  if p.size = 0 then .error .emptyPool
  else if p.size < p.limit then .error (.limitBeyondPool p.limit p.size)
  else .ok ()

/-- The mask of the pool's width that holds nothing. -/
def emptyMask (p : Pool) : Mask := .unassigned p.size

end Pool

end RanSlicing
