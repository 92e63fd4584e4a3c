/-
The controller that goes round a fixed cycle of allocations.

Each round requests the next allocation, and the cycle moves on whether or not the request was
carried out.
-/
import RanSlicing.Allocation.Request
import RanSlicing.Control.Report

namespace RanSlicing

/-- The cycle between two rounds. -/
structure Rotation where
  pool : Pool
  tenants : Nat
  allocations : List (SliceMap Range)
  /-- Which allocation is next. -/
  next : Nat
  /-- How many rounds there have been. -/
  round : Nat
  deriving DecidableEq, Repr

namespace Rotation

/-- The cycle before its first round. -/
def start (pool : Pool) (tenants : Nat) (allocations : List (SliceMap Range)) : Rotation :=
  ⟨pool, tenants, allocations, 0, 0⟩

/-- The cycle after a round: at the next allocation, or back at the first. -/
def advance (c : Rotation) : Rotation :=
  { c with
    next := if c.next + 1 < c.allocations.length then c.next + 1 else 0
    round := c.round + 1 }

variable {σ : Type} [Store σ]

/-- Requests the next allocation, or says why it was not carried out.  A cycle without
allocations requests nothing. -/
def tryStep (c : Rotation) (s : σ) : Except Fault Report × Rotation × σ :=
  match c.allocations[c.next]? with
  | none => (.ok { round := c.round }, c.advance, s)
  | some requested =>
    match Allocation.applyRanges c.pool c.tenants requested s with
    | (.ok written, s) =>
      (.ok { round := c.round, masksWritten := written.keys }, c.advance, s)
    | (.error e, s) => (.error e, c.advance, s)

/-- Requests the next allocation; a refusal goes into the report. -/
def step (c : Rotation) (s : σ) : Report × Rotation × σ :=
  match c.tryStep s with
  | (.ok report, next, s) => (report, next, s)
  | (.error e, next, s) =>
    ({ round := c.round, incidents := [.store (.allocating c.next) e] }, next, s)

end Rotation

end RanSlicing
