/-
The even split deals run after run.

What has been dealt is a beginning of the pool at every turn, so the free units are the rest of
the claimable ones and a slice gets the run right behind (`deal_runs`).  Where the runs start is
a recursion over the slices that never falls, so no unit is dealt twice, and the limit cuts it
short, so no unit beyond it is dealt.
-/
import RanSlicing.Allocation.Equal
import RanSlicing.Proofs.Except
import RanSlicing.Proofs.Mask.Units
import RanSlicing.Proofs.SortedMap

namespace RanSlicing

/-! ### The map of a list of masks -/

namespace SliceMap

theorem entries_ofMasks (masks : List Mask) :
    (ofMasks masks).entries = masks.zipIdx.map fun (mask, slice) => (slice, mask) := by
  refine SortedMap.entries_ofList ?_
  rw [List.pairwise_map, List.pairwise_iff_getElem]
  intro i j hi hj hij
  simp only [List.getElem_zipIdx, Nat.zero_add]
  exact Nat.compare_eq_lt.2 hij

theorem get?_ofMasks (masks : List Mask) (slice : Nat) :
    (ofMasks masks).get? slice = masks[slice]? := by
  refine Option.ext fun mask => ?_
  rw [← SortedMap.mem_entries_iff, entries_ofMasks]
  simp [List.mem_zipIdx_iff_getElem?]

end SliceMap

/-! ### Runs -/

namespace Mask

/-- The mask holds just the units from `start` on that come before `stop`. -/
def IsRun (m : Mask) (start stop : Nat) : Prop :=
  ∀ unit, m.isSet unit = true ↔ start ≤ unit ∧ unit < stop

variable {m other : Mask} {start stop : Nat}

theorem isRun_unassigned (width start : Nat) : (unassigned width).IsRun start start := by
  intro unit
  rw [isSet_unassigned]
  refine iff_of_false Bool.false_ne_true ?_
  omega

/-- A run is continued by the run behind it. -/
theorem IsRun.merge {middle : Nat} (h : m.IsRun start middle) (hother : other.IsRun middle stop)
    (hstart : start ≤ middle) (hmiddle : middle ≤ stop) (hwidth : other.width = m.width) :
    (m.merge other).IsRun start stop := by
  intro unit
  rw [isSet_merge, Bool.and_eq_true, Bool.or_eq_true, decide_eq_true_eq, h unit, hother unit]
  constructor
  · rintro ⟨-, hm | hother⟩ <;> omega
  · intro hunit
    refine ⟨?_, by omega⟩
    by_cases hlt : unit < middle
    · exact lt_width_of_isSet ((h unit).2 ⟨hunit.1, hlt⟩)
    · rw [← hwidth]
      exact lt_width_of_isSet ((hother unit).2 ⟨by omega, hunit.2⟩)

/-- Runs of which one ends before the other starts share nothing. -/
theorem IsRun.disjoint {start' stop' : Nat} (h : m.IsRun start stop)
    (hother : other.IsRun start' stop') (hapart : stop ≤ start' ∨ stop' ≤ start) :
    m.Disjoint other := by
  intro unit hunit
  have hm := (h unit).1 hunit
  by_contra hboth
  have hother := (hother unit).1 (by simpa using hboth)
  omega

/-- What is free behind a beginning of the pool is taken from there on, as far as the limit. -/
theorem IsRun.take_freeBelow {limit : Nat} (h : m.IsRun 0 start) (hstart : start ≤ limit)
    (n : Nat) :
    (m.freeBelow limit).take n = List.range' start (min limit (start + n) - start) := by
  have hfree : m.freeBelow limit = List.range' start (limit - start) := by
    refine List.Pairwise.eq_of_mem_iff (List.pairwise_lt_range.filter _)
      (List.pairwise_lt_range' 1) fun unit => ?_
    have hheld := (h unit).not
    rw [Bool.not_eq_true] at hheld
    rw [mem_freeBelow, hheld, List.mem_range'_1]
    omega
  rw [hfree]
  by_cases hn : n ≤ limit - start
  · rw [List.take_range'_of_length_ge hn, show min limit (start + n) - start = n by omega]
  · rw [List.take_of_length_le (by rw [List.length_range']; omega),
      show min limit (start + n) - start = limit - start by omega]

end Mask

namespace Allocation

variable {pool : Pool} {tenants : Nat}

/-! ### Where the runs start -/

/-- Where the run of a slice starts: behind what the quotas of the slices before it allow, or at
the limit. -/
def runStart (pool : Pool) (tenants : Nat) : Nat → Nat
  | 0 => 0
  | slice + 1 => min pool.limit (runStart pool tenants slice + quota pool tenants slice)

theorem runStart_le_limit (pool : Pool) (tenants slice : Nat) :
    runStart pool tenants slice ≤ pool.limit := by
  cases slice with
  | zero => exact Nat.zero_le _
  | succ slice => exact Nat.min_le_left _ _

theorem runStart_monotone (pool : Pool) (tenants : Nat) : Monotone (runStart pool tenants) := by
  refine monotone_nat_of_le_succ fun slice => ?_
  have := runStart_le_limit pool tenants slice
  rw [runStart]
  omega

/-! ### Dealing -/

/-- The mask that a slice takes behind a beginning of the pool. -/
theorem exists_run_ofUnits (hlimit : pool.limit ≤ pool.size) {claimed : Mask} {slice : Nat}
    (h : claimed.IsRun 0 (runStart pool tenants slice)) :
    ∃ mask, Mask.ofUnits pool.size
        ((claimed.freeBelow pool.limit).take (quota pool tenants slice)) = .ok mask ∧
      mask.width = pool.size ∧
      mask.IsRun (runStart pool tenants slice) (runStart pool tenants (slice + 1)) := by
  have hle := runStart_le_limit pool tenants slice
  have hbelow : ∀ unit ∈ (claimed.freeBelow pool.limit).take (quota pool tenants slice),
      unit < pool.size := fun unit hunit =>
    Nat.lt_of_lt_of_le (Mask.mem_freeBelow.1 (List.mem_of_mem_take hunit)).1 hlimit
  obtain ⟨mask, hmask, hwidth, hset⟩ := Mask.ofUnits_of_lt hbelow
  refine ⟨mask, hmask, hwidth, fun unit => ?_⟩
  rw [hset, h.take_freeBelow hle, List.mem_range'_1, runStart]
  omega

/-- The masks are the runs of the slices from `slice` on. -/
def Runs (pool : Pool) (tenants slice : Nat) (masks : List Mask) : Prop :=
  ∀ (i : Nat) (mask : Mask), masks[i]? = some mask → mask.width = pool.size ∧
    mask.IsRun (runStart pool tenants (i + slice)) (runStart pool tenants (i + slice + 1))

/-- **Dealing gives run after run.** -/
theorem deal_runs (hlimit : pool.limit ≤ pool.size) (tenants : Nat) :
    ∀ (n slice : Nat) (claimed : Mask), claimed.width = pool.size →
      claimed.IsRun 0 (runStart pool tenants slice) →
      ∃ masks, deal pool tenants claimed (List.range' slice n) = .ok masks ∧
        masks.length = n ∧ Runs pool tenants slice masks := by
  intro n
  induction n with
  | zero => exact fun slice claimed _ _ => ⟨[], rfl, rfl, fun i mask hmask => by simp at hmask⟩
  | succ n ih =>
      intro slice claimed hwidth hclaimed
      obtain ⟨mask, hmask, hmaskWidth, hrun⟩ := exists_run_ofUnits hlimit hclaimed
      have hmerged := hclaimed.merge hrun (Nat.zero_le _)
        (runStart_monotone pool tenants (Nat.le_succ slice)) (hmaskWidth.trans hwidth.symm)
      obtain ⟨masks, hmasks, hlength, hruns⟩ :=
        ih (slice + 1) (claimed.merge mask) ((Mask.width_merge _ _).trans hwidth) hmerged
      refine ⟨mask :: masks, ?_, by rw [List.length_cons, hlength], ?_⟩
      · rw [List.range'_succ, deal, hmask]
        show (deal pool tenants (claimed.merge mask) (List.range' (slice + 1) n) >>= _) = _
        rw [hmasks]
        rfl
      · intro i other hother
        cases i with
        | zero =>
            obtain rfl : mask = other := by simpa using hother
            rw [Nat.zero_add]
            exact ⟨hmaskWidth, hrun⟩
        | succ i =>
            have := hruns i other (by simpa using hother)
            rwa [show i + (slice + 1) = i + 1 + slice by omega] at this

/-- Dealing to all slices succeeds, whatever the pool and the number of slices. -/
theorem exists_deal (hlimit : pool.limit ≤ pool.size) (tenants : Nat) :
    ∃ masks, deal pool tenants pool.emptyMask (List.range tenants) = .ok masks ∧
      masks.length = tenants ∧ Runs pool tenants 0 masks := by
  rw [List.range_eq_range']
  exact deal_runs hlimit tenants tenants 0 pool.emptyMask (Mask.width_unassigned _)
    (Mask.isRun_unassigned _ _)

namespace Runs

variable {masks : List Mask}

theorem bounds (h : Runs pool tenants 0 masks) {i : Nat} {mask : Mask}
    (hmask : masks[i]? = some mask) : pool.Bounds mask := by
  obtain ⟨hwidth, hrun⟩ := h i mask hmask
  refine ⟨hwidth, fun unit hunit => ?_⟩
  exact Nat.lt_of_lt_of_le ((hrun unit).1 hunit).2 (runStart_le_limit pool tenants _)

/-- A later run starts where an earlier one has ended, or behind it. -/
theorem disjoint_of_lt (h : Runs pool tenants 0 masks) {i j : Nat} (hij : i < j) {m n : Mask}
    (hm : masks[i]? = some m) (hn : masks[j]? = some n) : m.Disjoint n :=
  (h i m hm).2.disjoint (h j n hn).2 (.inl (runStart_monotone pool tenants hij))

end Runs

/-- **The masks of an even split.**  Each slice has one; it holds units of the pool below the
limit and none that another one holds. -/
theorem equal_spec {pool : Pool} (hlimit : pool.limit ≤ pool.size) {tenants : Nat}
    {split : SliceMap Mask} (h : equal pool tenants = .ok split) :
    ∃ masks : List Mask, masks.length = tenants ∧ split = SliceMap.ofMasks masks ∧
      (∀ mask ∈ masks, pool.Bounds mask) ∧ masks.Pairwise Mask.Disjoint := by
  obtain ⟨masks, hmasks, hlength, hruns⟩ := exists_deal hlimit tenants
  unfold equal at h
  rw [hmasks] at h
  split at h
  · simp at h
  · split at h
    · simp at h
    · refine ⟨masks, hlength, (Except.ok.inj h).symm, fun mask hmask => ?_, ?_⟩
      · obtain ⟨i, hi⟩ := List.mem_iff_getElem?.1 hmask
        exact hruns.bounds hi
      · rw [List.pairwise_iff_getElem]
        intro i j hi hj hij
        exact hruns.disjoint_of_lt hij (List.getElem?_eq_getElem hi) (List.getElem?_eq_getElem hj)

end Allocation

end RanSlicing
