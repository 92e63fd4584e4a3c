/-
What a move to a number of units does, unit by unit.

A slice can take the units that nobody holds, and it takes them in one order: from its lowest
unit up to the bound, then from there down.  Growing takes a beginning of that order, shrinking
leaves a beginning of the slice's own units.  The mask, the outcome, the count and the flag are
said apart, as a proof about several moves needs them.
-/
import RanSlicing.Proofs.Allocation.Relative
import RanSlicing.Proofs.Mask.Units

namespace RanSlicing

variable {current occupied : Mask} {target : Nat} {pool : Pool}

namespace Adjustment

/-- The units that a slice could take, ascending: those below the limit and within the mask that
neither it nor another slice holds. -/
def freeUnits (current occupied : Mask) (pool : Pool) : List Nat :=
  (List.range (min pool.limit current.width)).filter fun unit =>
    !occupied.isSet unit && !current.isSet unit

/-- The order in which a slice takes them: above its lowest unit upwards, then below it
downwards.  A slice without units goes upwards. -/
def takingOrder (current occupied : Mask) (pool : Pool) : List Nat :=
  match current.first? with
  | none => freeUnits current occupied pool
  | some first =>
    (freeUnits current occupied pool).filter (first < ·) ++
      ((freeUnits current occupied pool).filter (· < first)).reverse

/-! ### The units that can be taken -/

theorem mem_freeUnits {unit : Nat} :
    unit ∈ freeUnits current occupied pool ↔
      unit < min pool.limit current.width ∧
        occupied.isSet unit = false ∧ current.isSet unit = false := by
  simp [freeUnits]

theorem freeUnits_pairwise (current occupied : Mask) (pool : Pool) :
    (freeUnits current occupied pool).Pairwise (· < ·) :=
  List.pairwise_lt_range.filter _

/-- The order lists each of them once. -/
theorem takingOrder_perm (current occupied : Mask) (pool : Pool) :
    (takingOrder current occupied pool).Perm (freeUnits current occupied pool) := by
  unfold takingOrder
  split
  · exact List.Perm.refl _
  · rename_i first hfirst
    have hbelow : (freeUnits current occupied pool).filter (· < first) =
        (freeUnits current occupied pool).filter fun unit => !decide (first < unit) := by
      refine List.filter_congr fun unit hunit => ?_
      -- The lowest unit is held, so no free unit is neither above nor below it.
      have hne : first ≠ unit :=
        Mask.ne_of_isSet (Mask.first?_eq_some_iff.1 hfirst).1 (mem_freeUnits.1 hunit).2.2
      rw [Bool.eq_iff_iff]
      simp only [decide_eq_true_eq, Bool.not_eq_true', decide_eq_false_iff_not]
      omega
    rw [hbelow]
    exact ((List.reverse_perm _).append_left _).trans (List.filter_append_perm _ _)

theorem mem_takingOrder {unit : Nat} :
    unit ∈ takingOrder current occupied pool ↔
      unit < min pool.limit current.width ∧
        occupied.isSet unit = false ∧ current.isSet unit = false :=
  (takingOrder_perm current occupied pool).mem_iff.trans mem_freeUnits

theorem takingOrder_nodup (current occupied : Mask) (pool : Pool) :
    (takingOrder current occupied pool).Nodup :=
  (takingOrder_perm current occupied pool).nodup_iff.2 (freeUnits_pairwise ..).nodup

theorem length_takingOrder (current occupied : Mask) (pool : Pool) :
    (takingOrder current occupied pool).length = (freeUnits current occupied pool).length :=
  (takingOrder_perm current occupied pool).length_eq

/-- The candidates are the free units in that order. -/
theorem candidates_eq (current occupied : Mask) (pool : Pool) :
    candidates current occupied (min pool.limit current.width) =
      takingOrder current occupied pool := by
  unfold candidates takingOrder
  cases hfirst : current.first? with
  | none =>
      show List.filter _ (List.range _ ++ []) = _
      rw [List.append_nil, freeUnits]
      refine List.filter_congr fun unit hunit => ?_
      simp [List.mem_range.1 hunit]
  | some first =>
      show List.filter _ (List.filter _ _ ++ (List.range first).reverse) = _
      rw [List.filter_append, List.filter_reverse]
      congr 1
      · refine List.Pairwise.eq_of_mem_iff ((List.pairwise_lt_range.filter _).filter _)
          ((freeUnits_pairwise ..).filter _) fun unit => ?_
        simp only [List.mem_filter, List.mem_range, mem_freeUnits, decide_eq_true_eq,
          Bool.and_eq_true, Bool.not_eq_true']
        tauto
      · refine congrArg List.reverse (List.Pairwise.eq_of_mem_iff
          (List.pairwise_lt_range.filter _) ((freeUnits_pairwise ..).filter _) fun unit => ?_)
        simp only [List.mem_filter, List.mem_range, mem_freeUnits, decide_eq_true_eq,
          Bool.and_eq_true, Bool.not_eq_true']
        tauto

end Adjustment

open Adjustment

namespace Mask

variable (occupied pool)

/-! ### Growing -/

/-- A slice with too few units keeps them and takes a beginning of its order. -/
theorem isSet_adjust_of_count_le (h : current.count ≤ target) (unit : Nat) :
    (current.adjust occupied target pool).mask.isSet unit = true ↔
      current.isSet unit = true ∨
        unit ∈ (takingOrder current occupied pool).take (target - current.count) := by
  unfold adjust
  split
  · rename_i heq
    simp [heq]
  · rw [if_neg (by omega), grow, isSet_foldl_put, candidates_eq]
    by_cases hmem : unit ∈ (takingOrder current occupied pool).take (target - current.count)
    · have hlt := (mem_takingOrder.1 (List.mem_of_mem_take hmem)).1
      simp [hmem, show unit < current.width by omega]
    · simp [hmem]

theorem outcome_adjust_of_count_lt (h : current.count < target) :
    (current.adjust occupied target pool).outcome =
      if target - current.count ≤ (freeUnits current occupied pool).length then
        .grown ((takingOrder current occupied pool).take (target - current.count))
      else
        .insufficient ((takingOrder current occupied pool).take (target - current.count))
          (current.count + (freeUnits current occupied pool).length) target := by
  unfold adjust
  rw [if_neg (by omega), if_neg (by omega), grow, candidates_eq]
  simp only [List.length_take, length_takingOrder]
  by_cases henough : target - current.count ≤ (freeUnits current occupied pool).length
  · rw [if_pos henough, if_pos (by omega)]
  · rw [if_neg henough, if_neg (by omega), Nat.min_eq_right (by omega)]

/-- It reaches the target, or else holds all that it could take. -/
theorem count_adjust_of_count_le (h : current.count ≤ target) :
    (current.adjust occupied target pool).mask.count =
      min target (current.count + (freeUnits current occupied pool).length) := by
  have hnodup := (takingOrder_nodup current occupied pool).sublist
    (List.take_sublist (target - current.count) _)
  have hnew : ∀ unit ∈ (takingOrder current occupied pool).take (target - current.count),
      current.isSet unit = false :=
    fun unit hunit => (mem_takingOrder.1 (List.mem_of_mem_take hunit)).2.2
  rw [count_eq_add hnodup hnew (isSet_adjust_of_count_le occupied pool h), List.length_take,
    length_takingOrder]
  omega

/-! ### Shrinking -/

/-- The highest units, downwards, are the ones that go. -/
theorem reverse_take_units (h : target ≤ current.count) :
    current.units.reverse.take (current.count - target) = (current.units.drop target).reverse := by
  rw [List.take_reverse, length_units]
  congr 2
  omega

theorem units_shrink (h : target ≤ current.count) :
    (shrink current target).mask.units = current.units.take target := by
  rw [shrink, reverse_take_units h]
  refine units_eq ((units_pairwise current).sublist (List.take_sublist _ _)) fun unit => ?_
  have hunits : current.isSet unit = true ↔
      unit ∈ current.units.take target ∨ unit ∈ current.units.drop target := by
    rw [← mem_units, ← List.mem_append, List.take_append_drop]
  have hapart : unit ∈ current.units.take target → unit ∉ current.units.drop target :=
    fun htake hdrop =>
      List.disjoint_take_drop (units_nodup current) (Nat.le_refl target) htake hdrop
  rw [isSet_foldl_put]
  simp only [List.mem_reverse]
  by_cases hdrop : unit ∈ current.units.drop target
  · have hlt := lt_width_of_isSet (hunits.2 (.inr hdrop))
    rw [if_pos ⟨hdrop, hlt⟩]
    exact iff_of_false Bool.false_ne_true fun htake => hapart htake hdrop
  · rw [if_neg (fun h => hdrop h.1), hunits]
    simp [hdrop]

theorem outcome_shrink (h : target ≤ current.count) :
    (shrink current target).outcome = .shrunk (current.units.drop target).reverse := by
  rw [shrink, reverse_take_units h]

/-- A slice with too many units keeps its lowest ones. -/
theorem units_adjust_of_le_count (h : target ≤ current.count) :
    (current.adjust occupied target pool).mask.units = current.units.take target := by
  unfold adjust
  split
  · rename_i heq
    rw [← heq, ← length_units, List.take_length]
  · rw [if_pos (by omega), units_shrink h]

theorem outcome_adjust_of_lt_count (h : target < current.count) :
    (current.adjust occupied target pool).outcome =
      .shrunk (current.units.drop target).reverse := by
  unfold adjust
  rw [if_neg (by omega), if_pos h, outcome_shrink (Nat.le_of_lt h)]

theorem adjust_of_count_eq (h : current.count = target) :
    current.adjust occupied target pool = ⟨current, .unchanged⟩ := by
  unfold adjust
  rw [if_pos h]

/-! ### Whether anything changed -/

/-- A slice with too few units changes exactly if it takes a unit. -/
theorem changed_adjust_of_count_lt (h : current.count < target) :
    (current.adjust occupied target pool).changed = true ↔
      (takingOrder current occupied pool).take (target - current.count) ≠ [] := by
  have houtcome := outcome_adjust_of_count_lt occupied pool h
  rw [changed, houtcome]
  by_cases henough : target - current.count ≤ (freeUnits current occupied pool).length
  · rw [if_pos henough]
    refine iff_of_true rfl fun hnone => ?_
    have hlength := congrArg List.length hnone
    rw [List.length_take, length_takingOrder, List.length_nil] at hlength
    omega
  · rw [if_neg henough]
    simp

/-- A move reports a change exactly if the mask is another one. -/
theorem changed_adjust_iff :
    (current.adjust occupied target pool).changed = true ↔
      (current.adjust occupied target pool).mask ≠ current := by
  rcases Nat.lt_trichotomy current.count target with hlt | heq | hgt
  · have hset := isSet_adjust_of_count_le occupied pool (Nat.le_of_lt hlt)
    rw [changed_adjust_of_count_lt occupied pool hlt]
    constructor
    · intro htaken hmask
      obtain ⟨unit, hunit⟩ := List.exists_mem_of_ne_nil _ htaken
      have hheld : current.isSet unit = true := hmask ▸ (hset unit).2 (.inr hunit)
      exact Bool.eq_false_iff.1 (mem_takingOrder.1 (List.mem_of_mem_take hunit)).2.2 hheld
    · intro hmask hnone
      refine hmask (ext_isSet (width_adjust ..) fun unit => ?_)
      rw [Bool.eq_iff_iff, hset, hnone]
      simp
  · simp [adjust_of_count_eq occupied pool heq, changed]
  · have hunits := units_adjust_of_le_count occupied pool (Nat.le_of_lt hgt)
    rw [changed, outcome_adjust_of_lt_count occupied pool hgt]
    refine iff_of_true rfl fun hmask => ?_
    have hlength := congrArg List.length hunits
    rw [hmask, List.length_take, length_units] at hlength
    omega

end Mask

end RanSlicing
