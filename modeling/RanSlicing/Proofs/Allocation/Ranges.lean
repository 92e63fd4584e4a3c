/-
What a request for ranges does to the partition.

A request that was carried out leaves each slice with the claimable units of its range, and a
slice for which nothing is asked with what it had.  The latter is a guard and not an oversight: a
cycle may name a slice once and leave it alone from then on.  It is also why ranges that do not
meet need not give a partition.  A unit that is asked for one slice may be held by another for
which nothing is asked, and then both hold it.  `partitioned_applyRanges_iff` says that nothing
else can go wrong.
-/
import RanSlicing.Proofs.Partition

namespace RanSlicing.Allocation

open Store

variable {σ : Type} [Store σ] {sound : σ → Prop} {fits : Nat → Prop} {pool : Pool} {tenants : Nat}
  {requested : SliceMap Range}

/-- What is asked can be given: the slices are configured, and no unit that can be claimed is
asked for two of them. -/
structure Compatible (pool : Pool) (tenants : Nat) (requested : SliceMap Range) : Prop where
  configured : ∀ slice ∈ requested.keys, slice < tenants
  disjoint : ∀ a ∈ requested.keys, ∀ b ∈ requested.keys, a ≠ b → ∀ unit < pool.limit,
    (asked requested a).holds unit = true → (asked requested b).holds unit = false

instance : Decidable (Compatible pool tenants requested) :=
  decidable_of_iff
    ((∀ slice ∈ requested.keys, slice < tenants) ∧
      ∀ a ∈ requested.keys, ∀ b ∈ requested.keys, a ≠ b → ∀ unit < pool.limit,
        (asked requested a).holds unit = true → (asked requested b).holds unit = false)
    ⟨fun h => ⟨h.1, h.2⟩, fun h => ⟨h.configured, h.disjoint⟩⟩

/-- A slice for which nothing is asked holds a unit that is asked for another slice. -/
def Clash (pool : Pool) (tenants : Nat) (requested : SliceMap Range) (s : σ) : Prop :=
  ∃ idle taker unit, idle < tenants ∧ taker < tenants ∧ unit < pool.limit ∧
    (asked requested idle).isNone = true ∧ Holds s idle unit ∧
      (asked requested taker).holds unit = true

theorem holds_eq_false_of_isNone {r : Range} (h : r.isNone = true) (unit : Nat) :
    r.holds unit = false := by
  rw [Range.isNone, beq_iff_eq] at h
  rw [h]
  rfl

/-- A slice that the request does not name asks for no unit. -/
theorem mem_keys_of_holds {slice unit : Nat} (h : (asked requested slice).holds unit = true) :
    slice ∈ requested.keys := by
  rw [SortedMap.mem_keys_iff]
  unfold asked at h
  cases hget : requested.get? slice with
  | some r => exact ⟨r, rfl⟩
  | none =>
      rw [hget, Option.getD_none, holds_eq_false_of_isNone rfl] at h
      exact Bool.noConfusion h

/-- No claimable unit is asked for two slices, named or not. -/
theorem Compatible.apart (h : Compatible pool tenants requested) {a b : Nat} (hab : a ≠ b)
    {unit : Nat} (hunit : unit < pool.limit) (ha : (asked requested a).holds unit = true) :
    (asked requested b).holds unit = false := by
  by_contra hb
  have hb' : (asked requested b).holds unit = true := by simpa using hb
  exact hb (h.disjoint a (mem_keys_of_holds ha) b (mem_keys_of_holds hb') hab unit hunit ha)

/-! ### The masks that are decided on -/

theorem rangeMask_spec (hlimit : pool.limit ≤ pool.size) (r : Range) :
    ∃ mask, rangeMask pool r = .ok mask ∧ mask.width = pool.size ∧
      ∀ unit, mask.isSet unit = true ↔ unit < pool.limit ∧ r.holds unit = true := by
  have hbelow : ∀ unit ∈ (List.range pool.limit).filter r.holds, unit < pool.size := by
    intro unit hunit
    have := List.mem_range.1 (List.mem_filter.1 hunit).1
    omega
  obtain ⟨mask, hmask, hwidth, hset⟩ := Mask.ofUnits_of_lt hbelow
  refine ⟨mask, hmask, hwidth, fun unit => ?_⟩
  rw [hset, List.mem_filter, List.mem_range]

/-- A slice gets the mask of its range unless it keeps the one it has. -/
theorem ranges_spec (hlimit : pool.limit ≤ pool.size) {persisted masks : SliceMap Mask}
    (h : ranges requested pool tenants persisted = .ok masks) (slice : Nat) :
    if slice < tenants ∧ keeps requested persisted slice = false then
      ∃ mask, masks.get? slice = some mask ∧ mask.width = pool.size ∧
        ∀ unit, mask.isSet unit = true ↔
          unit < pool.limit ∧ (asked requested slice).holds unit = true
    else masks.get? slice = none := by
  unfold ranges at h
  split at h
  · simp at h
  · obtain ⟨entries, hentries, hok⟩ := bind_eq_ok_iff.1 h
    have hget := SortedMap.get?_ofList_mapM (List.pairwise_lt_range.filter _) hentries slice
    rw [Except.ok.inj hok] at hget
    simp only [List.mem_filter, List.mem_range, Bool.not_eq_true'] at hget
    split at hget
    · rename_i hmem
      rw [if_pos hmem]
      obtain ⟨mask, hmask, hslice⟩ := hget
      obtain ⟨mask', hmask', hwidth, hset⟩ := rangeMask_spec hlimit (asked requested slice)
      rw [hmask] at hmask'
      obtain rfl := Except.ok.inj hmask'
      exact ⟨mask, hslice, hwidth, hset⟩
    · rename_i hmem
      rw [if_neg hmem]
      exact hget

/-- The masks have the width of the pool, whatever its limit is. -/
theorem width_of_ranges {persisted masks : SliceMap Mask}
    (h : ranges requested pool tenants persisted = .ok masks) :
    ∀ e ∈ masks.entries, e.2.width = pool.size := by
  unfold ranges at h
  split at h
  · cases h
  · obtain ⟨entries, hentries, hok⟩ := bind_eq_ok_iff.1 h
    rintro ⟨slice, mask⟩ hmem
    have hget := SortedMap.get?_ofList_mapM (List.pairwise_lt_range.filter _) hentries slice
    rw [Except.ok.inj hok, SortedMap.mem_entries_iff.1 hmem] at hget
    split at hget
    · obtain ⟨mask', hmask, heq⟩ := hget
      obtain rfl := Option.some.inj heq
      exact Mask.width_of_ofUnits hmask
    · cases hget

theorem fitting_ranges (hlimit : pool.limit ≤ pool.size) (requested : SliceMap Range) (s : σ)
    (masks : SliceMap Mask)
    (h : (recordedMasks s tenants).bind (ranges requested pool tenants) = .ok masks) :
    Fitting pool tenants masks.entries := by
  obtain ⟨persisted, -, hmasks⟩ := bind_eq_ok_iff.1 h
  rintro ⟨slice, mask⟩ hmem
  rw [SortedMap.mem_entries_iff] at hmem
  have hspec := ranges_spec hlimit hmasks slice
  split at hspec
  · rename_i hwrites
    obtain ⟨mask', hmask', hwidth, -⟩ := hspec
    rw [hmem] at hmask'
    obtain rfl := Option.some.inj hmask'
    exact ⟨hwrites.1, hwidth⟩
  · rw [hmem] at hspec
    simp at hspec

/-- A slice for which nothing is asked and that does not keep its mask holds nothing. -/
theorem not_holds_of_not_keeps (laws : Laws sound fits) {s : σ} (hs : sound s)
    {persisted : SliceMap Mask} (hpersisted : recordedMasks s tenants = .ok persisted) {slice : Nat}
    (hslice : slice < tenants) (hnone : (asked requested slice).isNone = true)
    (h : keeps requested persisted slice = false) (unit : Nat) : ¬Holds s slice unit := by
  rintro ⟨mask, hread, hunit⟩
  rcases get?_recordedMasks hpersisted hslice with ⟨hno, -⟩ | ⟨-, mask', hread', hrecorded⟩
  · have := laws.unassigned_of_not_hasMask hs hno hread unit
    exact Bool.noConfusion (hunit.symm.trans this)
  · rw [hread] at hread'
    obtain rfl := Except.ok.inj hread'
    rw [keeps, hnone, hrecorded] at h
    have hempty : mask.isUnassigned = true := by simpa using h
    have := Mask.isUnassigned_iff.1 hempty unit
    exact Bool.noConfusion (hunit.symm.trans this)

/-! ### Carrying them out -/

/-- **What a slice holds after a request that was carried out**: the claimable units of its range,
or what it held if nothing is asked for it. -/
theorem holds_applyRanges (laws : Laws sound fits) (hlimit : pool.limit ≤ pool.size)
    (hfits : fits pool.size) {s t : σ} {written : SliceMap Mask} (hs : sound s)
    (h : applyRanges pool tenants requested s = (.ok written, t)) :
    sound t ∧ ∀ slice < tenants, ∀ unit,
      Holds t slice unit ↔
        if (asked requested slice).isNone = true then Holds s slice unit
        else unit < pool.limit ∧ (asked requested slice).holds unit = true := by
  obtain ⟨hmasks, -⟩ := carryOut_eq_ok h
  obtain ⟨persisted, hpersisted, hmasks⟩ := bind_eq_ok_iff.1 hmasks
  obtain ⟨hsound, hread⟩ :=
    readMask_carryOut laws hfits (fitting_ranges hlimit requested s) hs h
  refine ⟨hsound, fun slice hslice unit => ?_⟩
  have hread := hread slice
  have hspec := ranges_spec hlimit hmasks slice
  split at hspec
  · rename_i hwrites
    obtain ⟨mask, hmask, -, hset⟩ := hspec
    rw [hmask] at hread
    rw [holds_iff hread, hset]
    split
    · rename_i hnone
      have hbefore : ¬Holds s slice unit :=
        not_holds_of_not_keeps laws hs hpersisted hslice hnone hwrites.2 unit
      rw [holds_eq_false_of_isNone hnone]
      simp [hbefore]
    · rfl
  · rename_i hkeeps
    have hnone : (asked requested slice).isNone = true := by
      have hkept : keeps requested persisted slice = true := by simpa [hslice] using hkeeps
      exact (Bool.and_eq_true_iff.1 hkept).1
    rw [hspec] at hread
    rw [if_pos hnone]
    exact holds_congr hread unit

/-- **Compatible ranges keep the partition unless they clash** with what a slice keeps. -/
theorem partitioned_applyRanges_iff (laws : Laws sound fits) (hlimit : pool.limit ≤ pool.size)
    (hfits : fits pool.size) (hcompatible : Compatible pool tenants requested) {s t : σ}
    {written : SliceMap Mask} (hs : sound s) (hpartition : Partitioned tenants s)
    (h : applyRanges pool tenants requested s = (.ok written, t)) :
    Partitioned tenants t ↔ ¬Clash pool tenants requested s := by
  obtain ⟨-, hholds⟩ := holds_applyRanges laws hlimit hfits hs h
  constructor
  · rintro hafter ⟨idle, taker, unit, hidle, htaker, hunit, hnone, hheld, hasked⟩
    have hsome : ¬(asked requested taker).isNone = true := by
      intro hnone'
      rw [holds_eq_false_of_isNone hnone'] at hasked
      exact Bool.noConfusion hasked
    have hne : idle ≠ taker := fun heq => hsome (heq ▸ hnone)
    refine hafter idle taker hidle htaker hne unit ?_ ?_
    · rw [hholds idle hidle, if_pos hnone]
      exact hheld
    · rw [hholds taker htaker, if_neg hsome]
      exact ⟨hunit, hasked⟩
  · intro hclash a b ha hb hab unit hheld hheld'
    rw [hholds a ha] at hheld
    rw [hholds b hb] at hheld'
    split at hheld
    · rename_i hnone
      split at hheld'
      · exact hpartition a b ha hb hab unit hheld hheld'
      · exact hclash ⟨a, b, unit, ha, hb, hheld'.1, hnone, hheld, hheld'.2⟩
    · split at hheld'
      · rename_i hnone
        exact hclash ⟨b, a, unit, hb, ha, hheld.1, hnone, hheld', hheld.2⟩
      · have := hcompatible.apart hab hheld.1 hheld.2
        rw [hheld'.2] at this
        exact Bool.noConfusion this

/-- Ranges for all slices clash with nothing. -/
theorem not_clash_of_explicit
    (h : ∀ slice < tenants, (asked requested slice).isNone = false) (s : σ) :
    ¬Clash pool tenants requested s := by
  rintro ⟨idle, -, -, hidle, -, -, hnone, -⟩
  rw [h idle hidle] at hnone
  exact Bool.noConfusion hnone

end RanSlicing.Allocation
