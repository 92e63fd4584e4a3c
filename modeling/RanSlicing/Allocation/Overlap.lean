/-
Units that two slices claim at once.

The masks of a map partition the pool exactly if no unit is listed here.
-/
import RanSlicing.Mask
import RanSlicing.SortedMap

namespace RanSlicing

/-- A unit that two slices hold, the lower slice first. -/
structure Overlap where
  first : Nat
  second : Nat
  unit : Nat
  deriving DecidableEq, Repr

namespace Overlap

/-- The units that the first entry shares with the later ones, then those of the rest. -/
def among : List (Nat × Mask) → List Overlap
  | [] => []
  | (first, mask) :: rest =>
    rest.flatMap (fun (second, other) => (mask.overlap other).map (⟨first, second, ·⟩)) ++
      among rest

/-- Every unit that two slices of the map hold, by first slice, second slice and unit. -/
def ofMasks (masks : SliceMap Mask) : List Overlap := among masks.entries

end Overlap

end RanSlicing
