/-
What a move to a number of units leaves, in full.

Three cases cover a move: the slice has its units already, it has too many, or it has too few.
For each of them the new mask and the outcome are given in terms of the old mask and the free
units, and the walk over single units is shown to end there.
-/
import RanSlicing.Proofs.Adjustment.Walk

namespace RanSlicing

namespace Adjustment

/-- **What a move leaves.**  The fields speak of a slice with as many units as it is to have, with
more and with fewer, and then of any slice. -/
structure Exact (current occupied : Mask) (target : Nat) (pool : Pool)
    (a : Adjustment) : Prop where
  /-- A slice that has its target is left alone. -/
  unchanged : current.count = target → a.mask = current ∧ a.outcome = .unchanged
  /-- A larger slice keeps its lowest units, and the others are named from the highest down. -/
  shrunk : target < current.count →
    a.mask.units = current.units.take target ∧
      a.outcome = .shrunk (current.units.drop target).reverse
  /-- A smaller slice takes free units in its order until it has enough or there are no more. -/
  grown : current.count < target →
    let free := freeUnits current occupied pool
    let added := (takingOrder current occupied pool).take (min (target - current.count) free.length)
    (∀ unit, a.mask.isSet unit = true ↔ current.isSet unit = true ∨ unit ∈ added) ∧
      a.outcome = if target - current.count ≤ free.length then .grown added
        else .insufficient added (current.count + free.length) target
  /-- The width stays. -/
  width : a.mask.width = current.width
  /-- No unit that another slice holds is taken. -/
  stealsNothing : ∀ unit, occupied.isSet unit = true → current.isSet unit = false →
    a.mask.isSet unit = false
  /-- A change is reported exactly if there is one. -/
  changed_iff : a.changed = true ↔ a.mask ≠ current
  /-- It is what moving one unit at a time comes to. -/
  walked : a = walk current occupied target pool

end Adjustment

open Adjustment

namespace Mask

/-- **A move to a number of units is exact**, for masks of any widths, any pool and any target. -/
theorem exact_adjust (current occupied : Mask) (target : Nat) (pool : Pool) :
    Exact current occupied target pool (current.adjust occupied target pool) where
  unchanged h := by
    rw [adjust_of_count_eq occupied pool h]
    exact ⟨rfl, rfl⟩
  shrunk h := ⟨units_adjust_of_le_count occupied pool (Nat.le_of_lt h),
    outcome_adjust_of_lt_count occupied pool h⟩
  grown h := by
    have htake : (takingOrder current occupied pool).take
        (min (target - current.count) (freeUnits current occupied pool).length) =
          (takingOrder current occupied pool).take (target - current.count) := by
      rw [← length_takingOrder, ← List.take_eq_take_min]
    simp only [htake]
    exact ⟨isSet_adjust_of_count_le occupied pool (Nat.le_of_lt h),
      outcome_adjust_of_count_lt occupied pool h⟩
  width := width_adjust current occupied target pool
  stealsNothing unit hoccupied hfree := by
    by_contra hset
    rcases isSet_adjust (by simpa using hset) with hheld | ⟨-, hunoccupied⟩
    · exact Bool.eq_false_iff.1 hfree hheld
    · exact Bool.eq_false_iff.1 hunoccupied hoccupied
  changed_iff := changed_adjust_iff occupied pool
  walked := adjust_eq_walk current occupied target pool

end Mask

end RanSlicing
