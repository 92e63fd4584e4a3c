/-
Where masks and policies are kept.

The logic of allocation meets the records only through five operations: it reads a mask, asks
whether there is one, writes one, and reads and writes the policies.  Each of them may fail.  A
store answers a write with the store as it is afterwards; whether a refused write leaves it as it
was is for each store to say.
-/
import RanSlicing.Mask
import RanSlicing.Policy

namespace RanSlicing

/-- A keeper of one mask for each slice and of the policies. -/
class Store (σ : Type) where
  /-- The mask of a slice; a slice without a record holds nothing. -/
  readMask : σ → Nat → Except Fault Mask
  /-- Whether the slice has a record of its own. -/
  hasMask? : σ → Nat → Except Fault Bool
  writeMask : σ → Nat → Mask → Except Fault Unit × σ
  readPolicies : σ → Except Fault PolicyTable
  writePolicies : σ → PolicyTable → Except Fault Unit × σ

namespace Store

variable {σ : Type} [Store σ]

/-- The masks of the slices below `tenants`, in order. -/
def readMasks (s : σ) (tenants : Nat) : Except Fault (List Mask) :=
  (List.range tenants).mapM (readMask s)

/-- Writes masks in order, up to the first that is refused. -/
def writeMasks (s : σ) : List (Nat × Mask) → Except Fault Unit × σ
  | [] => (.ok (), s)
  | (slice, mask) :: rest =>
    match writeMask s slice mask with
    | (.ok (), s) => writeMasks s rest
    | (.error e, s) => (.error e, s)

/-- Whether the slice is known to have a record of its own. -/
def hasMask (s : σ) (slice : Nat) : Bool := (hasMask? s slice).toOption.getD false

/-- Adds the mask of a slice to the masks on record, if the slice has a record. -/
def addRecorded (s : σ) (persisted : SliceMap Mask) (slice : Nat) :
    Except Fault (SliceMap Mask) := do
  if ← hasMask? s slice then (readMask s slice).map (persisted.insert slice)
  else .ok persisted

/-- The masks of those slices below `tenants` that have a record. -/
def recordedMasks (s : σ) (tenants : Nat) : Except Fault (SliceMap Mask) :=
  (List.range tenants).foldlM (addRecorded s) .empty

end Store

/-- How many writes a store has carried out and refused. -/
structure WriteStats where
  masks : Nat := 0
  policies : Nat := 0
  failed : Nat := 0
  deriving DecidableEq, Repr, Inhabited

end RanSlicing
