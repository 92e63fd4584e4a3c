/-
A store in memory, for dry runs.

It can be told to reject every write.  A rejected write changes nothing but the count of failed
writes.
-/
import RanSlicing.Store.Basic

namespace RanSlicing

/-- Masks and policies kept in memory; a slice without a mask has one of the given width. -/
structure MemoryStore where
  width : Nat
  masks : SliceMap Mask
  policies : Option PolicyTable
  rejecting : Bool
  stats : WriteStats
  deriving DecidableEq, Repr

namespace MemoryStore

/-- The store that has seen no write. -/
def empty (width : Nat) : MemoryStore := ⟨width, .empty, none, false, {}⟩

/-- The mask of a slice. -/
def readMask (s : MemoryStore) (slice : Nat) : Mask :=
  (s.masks.get? slice).getD (.unassigned s.width)

/-- The store after a rejected write. -/
def countFailure (s : MemoryStore) : MemoryStore :=
  { s with stats := { s.stats with failed := s.stats.failed + 1 } }

/-- Keeps a mask. -/
def writeMask (s : MemoryStore) (slice : Nat) (mask : Mask) : Except Fault Unit × MemoryStore :=
  if s.rejecting then (.error .maskRejected, s.countFailure)
  else (.ok (),
    { s with
      masks := s.masks.insert slice mask
      stats := { s.stats with masks := s.stats.masks + 1 } })

/-- Keeps the policies. -/
def writePolicies (s : MemoryStore) (policies : PolicyTable) : Except Fault Unit × MemoryStore :=
  if s.rejecting then (.error .policyRejected, s.countFailure)
  else (.ok (),
    { s with
      policies := some policies
      stats := { s.stats with policies := s.stats.policies + 1 } })

instance : Store MemoryStore where
  readMask s slice := .ok (s.readMask slice)
  hasMask? s slice := .ok (s.masks.contains slice)
  writeMask := writeMask
  readPolicies s := .ok (s.policies.getD .empty)
  writePolicies := writePolicies

end MemoryStore

end RanSlicing
