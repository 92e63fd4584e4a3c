/-
Moving a slice to a number of units steals nothing.

Growing takes candidates only, and a candidate is below the limit and not occupied; shrinking
only lets units go.  So whatever a slice holds after the move it held before or took from no one.
-/
import RanSlicing.Allocation.Relative
import RanSlicing.Proofs.Mask

namespace RanSlicing

namespace Adjustment

theorem mem_candidates {current occupied : Mask} {bound unit : Nat}
    (h : unit ∈ candidates current occupied bound) :
    unit < bound ∧ occupied.isSet unit = false ∧ current.isSet unit = false := by
  simp only [candidates, List.mem_filter, Bool.and_eq_true, decide_eq_true_eq,
    Bool.not_eq_true'] at h
  exact ⟨h.2.1.1, h.2.1.2, h.2.2⟩

end Adjustment

open Adjustment

theorem Mask.width_adjust (current occupied : Mask) (target : Nat) (pool : Pool) :
    (current.adjust occupied target pool).mask.width = current.width := by
  unfold adjust
  split
  · rfl
  · split
    · rw [shrink, width_foldl_put]
    · rw [grow, width_foldl_put]

/-- **A move steals nothing**: a unit held afterwards was held before, or it is below the limit
and was free. -/
theorem Mask.isSet_adjust {current occupied : Mask} {target : Nat} {pool : Pool} {unit : Nat}
    (h : (current.adjust occupied target pool).mask.isSet unit = true) :
    current.isSet unit = true ∨ unit < pool.limit ∧ occupied.isSet unit = false := by
  unfold adjust at h
  split at h
  · exact .inl h
  · split at h
    · rw [shrink, isSet_foldl_put] at h
      split at h
      · exact Bool.noConfusion h
      · exact .inl h
    · rw [grow, isSet_foldl_put] at h
      split at h
      · rename_i hadded
        have hcandidate := mem_candidates (List.mem_of_mem_take hadded.1)
        exact .inr ⟨Nat.lt_of_lt_of_le hcandidate.1 (Nat.min_le_left _ _), hcandidate.2.1⟩
      · exact .inl h

namespace Allocation

/-- A unit of the pool is occupied exactly if some mask holds it. -/
theorem isSet_occupied {pool : Pool} {masks : List Mask} {unit : Nat} (h : unit < pool.size) :
    (occupied pool masks).isSet unit = masks.any (·.isSet unit) := by
  rw [occupied, Mask.isSet_foldl_merge, Pool.emptyMask, Mask.isSet_unassigned,
    Mask.width_unassigned]
  simp [h]

end Allocation

end RanSlicing
