/-
The list of a mask's units.

`units` is the ascending list of what `isSet` says, and a strictly ascending list is determined
by its members.  So a list of units is found by naming its members (`units_eq`), and from the
list follow the count, the lowest and the highest unit, and that a mask is its width and its units.
-/
import Mathlib.Data.List.Sort
import RanSlicing.Proofs.Mask

namespace RanSlicing

namespace Mask

/-! ### Members and order -/

@[simp] theorem mem_units {m : Mask} {unit : Nat} : unit ∈ m.units ↔ m.isSet unit = true := by
  rw [units, List.mem_filterMap, isSet_iff_getElem?]
  constructor
  · rintro ⟨⟨held, u⟩, hmem, hu⟩
    have hbit : m.bits[u]? = some held := List.mem_zipIdx_iff_getElem?.1 hmem
    obtain ⟨rfl, hunit⟩ := Option.ite_none_right_eq_some.1 hu
    obtain rfl : u = unit := Option.some.inj hunit
    exact hbit
  · intro hbit
    exact ⟨(true, unit), List.mem_zipIdx_iff_getElem?.2 hbit, rfl⟩

theorem mem_overlap {m n : Mask} {unit : Nat} :
    unit ∈ m.overlap n ↔ m.isSet unit = true ∧ n.isSet unit = true := by
  rw [overlap, List.mem_filter, mem_units]

theorem units_pairwise (m : Mask) : m.units.Pairwise (· < ·) := by
  rw [units, List.pairwise_filterMap, List.pairwise_iff_getElem]
  intro i j hi hj hij u hu v hv
  simp only [List.getElem_zipIdx, Nat.zero_add, Option.ite_none_right_eq_some,
    Option.some.injEq] at hu hv
  omega

theorem overlap_pairwise (m n : Mask) : (m.overlap n).Pairwise (· < ·) :=
  (units_pairwise m).filter _

theorem units_nodup (m : Mask) : m.units.Nodup := (units_pairwise m).nodup

/-- The units of a mask are the ascending list of what it holds. -/
theorem units_eq {m : Mask} {units : List Nat} (hascending : units.Pairwise (· < ·))
    (h : ∀ unit, m.isSet unit = true ↔ unit ∈ units) : m.units = units :=
  (units_pairwise m).eq_of_mem_iff hascending fun unit => mem_units.trans (h unit)

/-- Two masks of one width with the same units are one mask. -/
theorem ext_units {m n : Mask} (hwidth : m.width = n.width) (h : m.units = n.units) : m = n := by
  refine ext_isSet hwidth fun unit => ?_
  rw [Bool.eq_iff_iff, ← mem_units, ← mem_units, h]

/-! ### How many there are -/

theorem length_units (m : Mask) : m.units.length = m.count := by
  have hheld : (fun entry : Bool × Nat =>
      (if entry.1 = true then some entry.2 else none).isSome) = (· == true) ∘ Prod.fst := by
    funext ⟨held, unit⟩
    cases held <;> rfl
  rw [units, List.length_filterMap_eq_countP, hheld, ← List.countP_map, List.zipIdx_map_fst]
  rfl

theorem isUnassigned_eq_false_iff {m : Mask} : m.isUnassigned = false ↔ 0 < m.count := by
  rw [isUnassigned, Bool.not_eq_false', List.any_eq_true, count, List.count_pos_iff]
  simp

/-- A mask with the units of a list beside its own counts both. -/
theorem count_eq_add {m n : Mask} {added : List Nat} (hadded : added.Nodup)
    (hnew : ∀ unit ∈ added, m.isSet unit = false)
    (h : ∀ unit, n.isSet unit = true ↔ m.isSet unit = true ∨ unit ∈ added) :
    n.count = m.count + added.length := by
  have hnodup : (m.units ++ added).Nodup := by
    refine List.nodup_append.2 ⟨units_nodup m, hadded, fun a ha b hb => ?_⟩
    exact ne_of_isSet (mem_units.1 ha) (hnew b hb)
  have hperm : n.units.Perm (m.units ++ added) := by
    rw [List.perm_ext_iff_of_nodup (units_nodup n) hnodup]
    intro unit
    rw [mem_units, List.mem_append, mem_units]
    exact h unit
  rw [← length_units, hperm.length_eq, List.length_append, length_units]

/-! ### The lowest unit -/

theorem first?_eq_some_iff {m : Mask} {first : Nat} :
    m.first? = some first ↔
      m.isSet first = true ∧ ∀ unit, m.isSet unit = true → first ≤ unit := by
  have hascending := units_pairwise m
  rw [first?]
  constructor
  · intro h
    obtain ⟨rest, hrest⟩ := List.head?_eq_some_iff.1 h
    rw [hrest] at hascending
    refine ⟨mem_units.1 (by simp [hrest]), fun unit hunit => ?_⟩
    have hmem : unit ∈ first :: rest := hrest ▸ mem_units.2 hunit
    rcases List.mem_cons.1 hmem with rfl | hlater
    · exact Nat.le_refl _
    · exact Nat.le_of_lt (List.rel_of_pairwise_cons hascending hlater)
  · rintro ⟨hset, hleast⟩
    cases hunits : m.units with
    | nil => simp [← mem_units, hunits] at hset
    | cons head rest =>
        have hhead : first ≤ head := hleast head (mem_units.1 (by simp [hunits]))
        have hmem : first ∈ head :: rest := hunits ▸ mem_units.2 hset
        rw [hunits] at hascending
        rcases List.mem_cons.1 hmem with rfl | hlater
        · rfl
        · have := List.rel_of_pairwise_cons hascending hlater
          omega

theorem first?_eq_none_iff {m : Mask} :
    m.first? = none ↔ ∀ unit, m.isSet unit = false := by
  rw [first?, List.head?_eq_none_iff, List.eq_nil_iff_forall_not_mem]
  simp

/-! ### The highest unit -/

theorem last?_eq_none_iff {m : Mask} :
    m.last? = none ↔ ∀ unit, m.isSet unit = false := by
  rw [last?, List.getLast?_eq_none_iff, List.eq_nil_iff_forall_not_mem]
  simp

theorem isSet_and_le_of_last? {m : Mask} {last : Nat} (h : m.last? = some last) :
    m.isSet last = true ∧ ∀ unit, m.isSet unit = true → unit ≤ last := by
  obtain ⟨front, hfront⟩ := List.getLast?_eq_some_iff.1 h
  have hascending := units_pairwise m
  rw [hfront, List.pairwise_append] at hascending
  refine ⟨mem_units.1 (by simp [hfront]), fun unit hunit => ?_⟩
  have hmem : unit ∈ front ++ [last] := hfront ▸ mem_units.2 hunit
  rcases List.mem_append.1 hmem with hearlier | hlast
  · exact Nat.le_of_lt (hascending.2.2 unit hearlier last List.mem_cons_self)
  · exact Nat.le_of_eq (List.mem_singleton.1 hlast)

theorem last?_eq_some_iff {m : Mask} {last : Nat} :
    m.last? = some last ↔
      m.isSet last = true ∧ ∀ unit, m.isSet unit = true → unit ≤ last := by
  refine ⟨isSet_and_le_of_last?, fun ⟨hset, hgreatest⟩ => ?_⟩
  cases hlast : m.last? with
  | none => exact absurd hset (Bool.eq_false_iff.1 (last?_eq_none_iff.1 hlast last))
  | some unit =>
      obtain ⟨hunit, hle⟩ := isSet_and_le_of_last? hlast
      rw [Nat.le_antisymm (hgreatest unit hunit) (hle last hset)]

end Mask

end RanSlicing
