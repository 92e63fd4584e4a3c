/-
The union of masks, and when counting it loses nothing.

A mask takes in from another one only what its own width reaches, so the union is merged into a
mask as wide as the widest.  Each unit of it is counted once, however many masks hold it, while the
counts of the masks add up to the length of all their units in a row.  The two agree exactly if no
unit stands there twice.
-/
import Mathlib.Algebra.GroupWithZero.Nat
import Mathlib.Data.List.Dedup
import Mathlib.Data.List.Nodup
import RanSlicing.Proofs.Mask.Units

namespace RanSlicing.Mask

/-- The width of the widest of some masks. -/
def widest (masks : List Mask) : Nat := masks.foldr (fun m width => max m.width width) 0

/-- What some masks hold together, in a mask as wide as the widest of them. -/
def union (masks : List Mask) : Mask := masks.foldl merge (unassigned (widest masks))

theorem width_le_widest {masks : List Mask} {m : Mask} (h : m ∈ masks) :
    m.width ≤ widest masks := by
  induction masks with
  | nil => simp at h
  | cons first rest ih =>
      show m.width ≤ max first.width (widest rest)
      rcases List.mem_cons.1 h with rfl | hlater
      · omega
      · have := ih hlater
        omega

/-- The union holds what one of the masks holds, whatever their widths. -/
theorem isSet_union_iff {masks : List Mask} {unit : Nat} :
    (union masks).isSet unit = true ↔ ∃ m ∈ masks, m.isSet unit = true := by
  rw [union, isSet_foldl_merge, isSet_unassigned, width_unassigned, Bool.false_or,
    Bool.and_eq_true, decide_eq_true_eq, List.any_eq_true]
  refine and_iff_right_of_imp ?_
  rintro ⟨m, hm, hset⟩
  exact Nat.lt_of_lt_of_le (lt_width_of_isSet hset) (width_le_widest hm)

theorem disjoint_iff_units {m n : Mask} : m.Disjoint n ↔ m.units.Disjoint n.units := by
  constructor
  · intro h unit hm hn
    exact absurd (mem_units.1 hn) (Bool.eq_false_iff.1 (h unit (mem_units.1 hm)))
  · intro h unit hm
    rw [Bool.eq_false_iff]
    intro hn
    exact h (mem_units.2 hm) (mem_units.2 hn)

/-- **The counts add up to that of the union exactly if the masks are disjoint in pairs.** -/
theorem sum_count_eq_iff (masks : List Mask) :
    (masks.map count).sum = (union masks).count ↔ masks.Pairwise Disjoint := by
  have hsum : (masks.map count).sum = (masks.flatMap units).length := by
    rw [List.length_flatMap]
    simp only [length_units]
  have hunion : (union masks).count = (masks.flatMap units).dedup.length := by
    have hperm : (union masks).units.Perm (masks.flatMap units).dedup := by
      rw [List.perm_ext_iff_of_nodup (units_nodup _) (List.nodup_dedup _)]
      intro unit
      rw [mem_units, isSet_union_iff, List.mem_dedup, List.mem_flatMap]
      simp only [mem_units]
    rw [← length_units, hperm.length_eq]
  have hnodup : (masks.flatMap units).Nodup ↔ masks.Pairwise Disjoint := by
    rw [List.nodup_flatMap, and_iff_right fun m _ => units_nodup m]
    exact List.Pairwise.iff fun m n => disjoint_iff_units.symm
  rw [hsum, hunion, ← hnodup, ← List.dedup_eq_self, eq_comm]
  exact (List.dedup_sublist _).length_eq

end RanSlicing.Mask
