/-
Moving a slice in steps moves it as far as moving it at once.

Shrinking leaves a beginning of the units, and a beginning of a beginning is one.  Growing is the
harder half: a slice that has turned below its lowest unit has a new lowest unit, and looks for
the next one from there.  The order in which units are taken is the only arrangement of the free
units that `Sooner` admits, and what is left of it after some units were taken is an arrangement
that `Sooner` admits from the new lowest unit as well, for a slice turns only when nothing is
free above.  So the second move goes on where the first one stopped (`takingOrder_of_taken`).
-/
import RanSlicing.Proofs.Adjustment

namespace RanSlicing

variable {current occupied : Mask} {pool : Pool}

namespace Adjustment

/-! ### One order for each lowest unit -/

/-- A slice with this lowest unit takes the unit `u` before the unit `v`. -/
def Sooner (first? : Option Nat) (u v : Nat) : Prop :=
  match first? with
  | none => u < v
  | some first => first < u ∧ (first < v → u < v) ∨ u < first ∧ v < u

instance (first? : Option Nat) : Std.Irrefl (Sooner first?) where
  irrefl u := by
    cases first? <;> simp only [Sooner] <;> omega

instance (first? : Option Nat) : Std.Antisymm (Sooner first?) where
  antisymm u v huv hvu := by
    cases first? <;> simp only [Sooner] at huv hvu <;> omega

theorem takingOrder_pairwise (current occupied : Mask) (pool : Pool) :
    (takingOrder current occupied pool).Pairwise (Sooner current.first?) := by
  have hascending := freeUnits_pairwise current occupied pool
  unfold takingOrder
  cases current.first? with
  | none => exact hascending
  | some first =>
      rw [List.pairwise_append, List.pairwise_reverse]
      refine ⟨?_, ?_, ?_⟩
      · refine (hascending.filter _).imp_of_mem fun hu _ huv => ?_
        have hu := of_decide_eq_true (List.mem_filter.1 hu).2
        exact .inl ⟨hu, fun _ => huv⟩
      · refine (hascending.filter _).imp_of_mem fun _ hv huv => ?_
        have hv := of_decide_eq_true (List.mem_filter.1 hv).2
        exact .inr ⟨hv, huv⟩
      · intro u hu v hv
        have hu := of_decide_eq_true (List.mem_filter.1 hu).2
        have hv := of_decide_eq_true (List.mem_filter.1 (List.mem_reverse.1 hv)).2
        exact .inl ⟨hu, fun _ => by omega⟩

/-- An arrangement of the free units that `Sooner` admits is the order of the slice. -/
theorem takingOrder_eq {units : List Nat} (horder : units.Pairwise (Sooner current.first?))
    (h : ∀ unit, unit ∈ units ↔ unit < min pool.limit current.width ∧
      occupied.isSet unit = false ∧ current.isSet unit = false) :
    takingOrder current occupied pool = units :=
  (takingOrder_pairwise current occupied pool).eq_of_mem_iff horder fun unit =>
    mem_takingOrder.trans (h unit).symm

/-- Once the lowest unit is one that was taken, what comes after it goes down from there, or up
if the slice was empty. -/
theorem Sooner.of_taken {first? : Option Nat} {first u v : Nat}
    (hbelow : ∀ old ∈ first?, first < old) (hu : Sooner first? first u)
    (hv : Sooner first? first v) (huv : Sooner first? u v) : Sooner (some first) u v := by
  cases first? with
  | none =>
      simp only [Sooner] at *
      omega
  | some old =>
      have hlt : first < old := hbelow old rfl
      simp only [Sooner] at *
      omega

/-! ### Going on where the last move stopped -/

variable {grown occupied' : Mask} {taken : Nat}

/-- The lowest unit of a slice that took units is its old one or one of those. -/
theorem pairwise_drop_of_taken
    (h : ∀ unit, grown.isSet unit = true ↔
      current.isSet unit = true ∨ unit ∈ (takingOrder current occupied pool).take taken) :
    ((takingOrder current occupied pool).drop taken).Pairwise (Sooner grown.first?) := by
  have horder := takingOrder_pairwise current occupied pool
  have hrest := horder.sublist (List.drop_sublist taken _)
  cases hfirst : grown.first? with
  | none =>
      have hempty := Mask.first?_eq_none_iff.1 hfirst
      have hnone : current.first? = none := by
        refine Mask.first?_eq_none_iff.2 fun unit => ?_
        by_contra hset
        exact Bool.eq_false_iff.1 (hempty unit) ((h unit).2 (.inl (by simpa using hset)))
      rwa [hnone] at hrest
  | some first =>
      obtain ⟨hheld, hleast⟩ := Mask.first?_eq_some_iff.1 hfirst
      rcases (h first).1 hheld with hold | hnew
      · -- The lowest unit has stayed.
        have hsame : current.first? = some first :=
          Mask.first?_eq_some_iff.2 ⟨hold, fun unit hunit => hleast unit ((h unit).2 (.inl hunit))⟩
        rwa [hsame] at hrest
      · have hbelow : ∀ old ∈ current.first?, first < old := by
          intro old hmem
          have hset := (Mask.first?_eq_some_iff.1 hmem).1
          have hle := hleast old ((h old).2 (.inl hset))
          have hne : old ≠ first :=
            Mask.ne_of_isSet hset (mem_takingOrder.1 (List.mem_of_mem_take hnew)).2.2
          omega
        have hafter : ∀ unit ∈ (takingOrder current occupied pool).drop taken,
            Sooner current.first? first unit := by
          rw [← List.take_append_drop taken (takingOrder current occupied pool),
            List.pairwise_append] at horder
          exact horder.2.2 first hnew
        exact hrest.imp_of_mem fun hu hv huv =>
          Sooner.of_taken hbelow (hafter _ hu) (hafter _ hv) huv

/-- **What is left of the order is the new order.** -/
theorem takingOrder_of_taken (hwidth : grown.width = current.width)
    (h : ∀ unit, grown.isSet unit = true ↔
      current.isSet unit = true ∨ unit ∈ (takingOrder current occupied pool).take taken)
    (hothers : ∀ unit, grown.isSet unit = false → occupied'.isSet unit = occupied.isSet unit) :
    takingOrder grown occupied' pool = (takingOrder current occupied pool).drop taken := by
  refine takingOrder_eq (pairwise_drop_of_taken h) fun unit => ?_
  have hparts : unit ∈ takingOrder current occupied pool ↔
      unit ∈ (takingOrder current occupied pool).take taken ∨
        unit ∈ (takingOrder current occupied pool).drop taken := by
    rw [← List.mem_append, List.take_append_drop]
  have hapart := List.disjoint_take_drop (takingOrder_nodup current occupied pool)
    (Nat.le_refl taken) (a := unit)
  have hfree : grown.isSet unit = false ↔ current.isSet unit = false ∧
      unit ∉ (takingOrder current occupied pool).take taken := by
    have := (h unit).not
    simpa using this
  rw [hwidth]
  constructor
  · intro hdrop
    obtain ⟨hlt, hunoccupied, hunheld⟩ := mem_takingOrder.1 (hparts.2 (.inr hdrop))
    have hgrown := hfree.2 ⟨hunheld, fun htake => hapart htake hdrop⟩
    exact ⟨hlt, (hothers unit hgrown).trans hunoccupied, hgrown⟩
  · rintro ⟨hlt, hunoccupied, hgrown⟩
    obtain ⟨hunheld, hnot⟩ := hfree.1 hgrown
    rw [hothers unit hgrown] at hunoccupied
    exact (hparts.1 (mem_takingOrder.2 ⟨hlt, hunoccupied, hunheld⟩)).resolve_left hnot

end Adjustment

open Adjustment

namespace Mask

variable {first : Mask} {t₁ t₂ : Nat}

/-- Two moves up reach what one does. -/
theorem adjust_adjust_of_le (h₁ : current.count ≤ t₁) (h₂ : t₁ ≤ t₂)
    (hfirst : (current.adjust occupied t₁ pool).mask = first) :
    (first.adjust (occupied.merge first) t₂ pool).mask =
      (current.adjust occupied t₂ pool).mask := by
  have hset := isSet_adjust_of_count_le occupied pool h₁
  have hcount := count_adjust_of_count_le occupied pool h₁
  have hwidth := width_adjust current occupied t₁ pool
  rw [hfirst] at hset hcount hwidth
  have horder : takingOrder first (occupied.merge first) pool =
      (takingOrder current occupied pool).drop (t₁ - current.count) :=
    takingOrder_of_taken hwidth hset fun unit => isSet_merge_of_not
  -- The second move takes as many as are missing, or there is nothing left to take.
  have hnext : (takingOrder first (occupied.merge first) pool).take (t₂ - first.count) =
      ((takingOrder current occupied pool).drop (t₁ - current.count)).take (t₂ - t₁) := by
    rw [horder]
    by_cases henough : t₁ - current.count ≤ (freeUnits current occupied pool).length
    · rw [show first.count = t₁ by omega]
    · rw [List.drop_eq_nil_of_le (by rw [length_takingOrder]; omega), List.take_nil,
        List.take_nil]
  refine ext_isSet (by rw [width_adjust, width_adjust, hwidth]) fun unit => ?_
  rw [Bool.eq_iff_iff, isSet_adjust_of_count_le _ _ (by omega),
    isSet_adjust_of_count_le _ _ (Nat.le_trans h₁ h₂), hset, hnext,
    show t₂ - current.count = (t₁ - current.count) + (t₂ - t₁) by omega, List.take_add,
    List.mem_append, or_assoc]

/-- Two moves down reach what one does. -/
theorem adjust_adjust_of_ge {occupied' : Mask} (h₁ : t₁ ≤ current.count) (h₂ : t₂ ≤ t₁)
    (hfirst : (current.adjust occupied t₁ pool).mask = first) :
    (first.adjust occupied' t₂ pool).mask = (current.adjust occupied t₂ pool).mask := by
  have hunits := units_adjust_of_le_count occupied pool h₁
  have hwidth := width_adjust current occupied t₁ pool
  rw [hfirst] at hunits hwidth
  have hcount : first.count = t₁ := by
    rw [← length_units, hunits, List.length_take, length_units]
    omega
  refine ext_units (by rw [width_adjust, width_adjust, hwidth]) ?_
  rw [units_adjust_of_le_count _ _ (by omega), units_adjust_of_le_count _ _ (Nat.le_trans h₂ h₁),
    hunits, List.take_take, Nat.min_eq_left h₂]

end Mask

/-- **A move in steps is a move at once.**  A slice that is moved to one number of units and then
further the same way, with the first result counted among the occupied units, has the mask that
the second target gives it directly.  Moving it to the same number again changes nothing. -/
theorem Mask.adjust_adjust {current occupied : Mask} {pool : Pool} {t₁ t₂ : Nat}
    (h : current.count ≤ t₁ ∧ t₁ ≤ t₂ ∨ t₂ ≤ t₁ ∧ t₁ ≤ current.count) :
    let first := (current.adjust occupied t₁ pool).mask
    let second := first.adjust (occupied.merge first) t₂ pool
    second.mask = (current.adjust occupied t₂ pool).mask ∧
      (t₁ = t₂ → second.mask = first ∧ second.changed = false) := by
  intro first second
  have hsecond : second.mask = (current.adjust occupied t₂ pool).mask := by
    rcases h with ⟨h₁, h₂⟩ | ⟨h₂, h₁⟩
    · exact adjust_adjust_of_le h₁ h₂ rfl
    · exact adjust_adjust_of_ge h₁ h₂ rfl
  refine ⟨hsecond, ?_⟩
  rintro rfl
  refine ⟨hsecond, ?_⟩
  by_contra hchanged
  exact (changed_adjust_iff _ _).1 (by simpa using hchanged) hsecond

/-- A slice between two others, first moved to the right edge and past it, then further down.  Moved
the other way it gives up its highest units, first one and then two more. -/
theorem Mask.adjust_adjust_past_the_edge :
    let current : Mask := ⟨[false, false, false, true, false, false]⟩
    let occupied : Mask := ⟨[false, false, false, true, false, true]⟩
    let first := (current.adjust occupied 3 (.full 6)).mask
    let again := first.adjust (occupied.merge first) 3 (.full 6)
    let wide : Mask := ⟨[true, false, true, true, true, false]⟩
    let taken : Mask := ⟨[true, false, true, true, true, true]⟩
    let less := (wide.adjust taken 3 (.full 6)).mask
    let same := less.adjust (taken.merge less) 3 (.full 6)
    ((current.count ≤ 3 ∧ 3 ≤ 4) ∧ first.units = [2, 3, 4] ∧
        (first.adjust (occupied.merge first) 4 (.full 6)).mask =
          (current.adjust occupied 4 (.full 6)).mask ∧
        again.mask = first ∧ again.changed = false) ∧
      (1 ≤ 3 ∧ 3 ≤ wide.count) ∧ less.units = [0, 2, 3] ∧
        (wide.adjust taken 1 (.full 6)).mask.units = [0] ∧
        (less.adjust (taken.merge less) 1 (.full 6)).mask =
          (wide.adjust taken 1 (.full 6)).mask ∧
        same.mask = less ∧ same.changed = false := by
  intro current occupied first again wide taken less same
  have hup : current.count ≤ 3 ∧ 3 ≤ 4 := by decide
  have hdown : 1 ≤ 3 ∧ 3 ≤ wide.count := by decide
  exact ⟨⟨hup, by decide, (Mask.adjust_adjust (.inl hup)).1,
      (Mask.adjust_adjust (.inl ⟨hup.1, Nat.le_refl 3⟩)).2 rfl⟩,
    hdown, by decide, by decide, (Mask.adjust_adjust (.inr hdown)).1,
    (Mask.adjust_adjust (.inr ⟨Nat.le_refl 3, hdown.2⟩)).2 rfl⟩

end RanSlicing
