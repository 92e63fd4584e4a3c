/-
What a request for ranges is given, in full.

The request is refused exactly if it names a slice that is not configured.  Otherwise there is
an answer, and it is a map of masks: which slices are in it, which units each mask holds and which
units are held twice are all given in terms of the request and the masks that are recorded.  A
range is taken at its word as far as the limit reaches; one that is upside down or has a negative
end holds nothing, and only the one that asks for nothing spares the slice.
-/
import RanSlicing.Proofs.Allocation.Overlap
import RanSlicing.Proofs.Allocation.Ranges
import RanSlicing.Proofs.Range

namespace RanSlicing.Allocation

variable {pool : Pool} {tenants : Nat} {requested : SliceMap Range} {persisted : SliceMap Mask}

/-- A slice keeps its mask if nothing is asked for it and the recorded mask holds a unit. -/
theorem keeps_iff {slice : Nat} :
    keeps requested persisted slice = true ↔ asked requested slice = .none ∧
      ∃ mask, persisted.get? slice = some mask ∧ 0 < mask.count := by
  rw [keeps, Bool.and_eq_true, Range.isNone_iff]
  refine and_congr_right fun _ => ?_
  cases persisted.get? slice with
  | none => simp
  | some mask => simp [Mask.isUnassigned_eq_false_iff]

/-- Without a slice that is not configured the request is granted. -/
theorem exists_ranges_eq_ok (hlimit : pool.limit ≤ pool.size)
    (hconfigured : ∀ slice ∈ requested.keys, slice < tenants) (persisted : SliceMap Mask) :
    ∃ masks, ranges requested pool tenants persisted = .ok masks := by
  have hnone : requested.keys.find? (tenants ≤ ·) = none := by
    rw [List.find?_eq_none]
    intro slice hslice
    have := hconfigured slice hslice
    simpa using this
  have hall : ∀ slice ∈ (List.range tenants).filter fun slice => !keeps requested persisted slice,
      ∃ entry, (rangeMask pool (asked requested slice)).map (fun mask => (slice, mask))
        = .ok entry := by
    intro slice _
    obtain ⟨mask, hmask, -⟩ := rangeMask_spec hlimit (asked requested slice)
    exact ⟨(slice, mask), by rw [hmask]; rfl⟩
  obtain ⟨entries, hentries⟩ := exists_mapM_eq_ok hall
  rw [ranges, hnone]
  exact ⟨SortedMap.ofList entries, bind_eq_ok_iff.2 ⟨entries, hentries, rfl⟩⟩

/-- The refusal names the lowest slice that is not configured. -/
theorem ranges_eq_error_iff (hlimit : pool.limit ≤ pool.size) {e : Fault} :
    ranges requested pool tenants persisted = .error e ↔
      ∃ slice, requested.keys.find? (tenants ≤ ·) = some slice ∧
        e = .rangeNotConfigured slice tenants := by
  cases hfind : requested.keys.find? (tenants ≤ ·) with
  | some slice =>
      rw [ranges, hfind]
      simp [eq_comm]
  | none =>
      have hconfigured : ∀ slice ∈ requested.keys, slice < tenants := by
        simpa using hfind
      obtain ⟨masks, hmasks⟩ := exists_ranges_eq_ok hlimit hconfigured persisted
      simp [hmasks]

/-- A request is refused exactly if it names a slice that is not configured. -/
theorem exists_ranges_eq_error_iff (hlimit : pool.limit ≤ pool.size)
    (persisted : SliceMap Mask) :
    (∃ e, ranges requested pool tenants persisted = .error e ∧ e.kind = .invalidRequest) ↔
      ∃ slice ∈ requested.keys, tenants ≤ slice := by
  constructor
  · rintro ⟨e, he, -⟩
    obtain ⟨slice, hfind, -⟩ := (ranges_eq_error_iff hlimit).1 he
    exact ⟨slice, List.mem_of_find?_eq_some hfind, by simpa using List.find?_some hfind⟩
  · rintro ⟨slice, hslice, hbeyond⟩
    have hsome : (requested.keys.find? (tenants ≤ ·)).isSome = true :=
      List.find?_isSome.2 ⟨slice, hslice, by simpa using hbeyond⟩
    obtain ⟨lowest, hlowest⟩ := Option.isSome_iff_exists.1 hsome
    exact ⟨_, (ranges_eq_error_iff hlimit).2 ⟨lowest, hlowest, rfl⟩, rfl⟩

/-- **What a request for ranges is given**, if it is not refused. -/
structure ExactRanges (requested : SliceMap Range) (pool : Pool) (tenants : Nat)
    (persisted masks : SliceMap Mask) : Prop where
  /-- Every configured slice has a mask, unless nothing is asked for it and it has units. -/
  slices : ∀ slice, slice ∈ masks.keys ↔ slice < tenants ∧
    ¬((requested.get? slice = some .none ∨ requested.get? slice = none) ∧
      ∃ mask, persisted.get? slice = some mask ∧ 0 < mask.count)
  /-- A mask has the width of the pool and the units of the range below the limit. -/
  units : ∀ slice mask, masks.get? slice = some mask → mask.width = pool.size ∧
    ∀ unit, mask.isSet unit = true ↔ unit < pool.limit ∧ (asked requested slice).Spans unit
  /-- A unit is held twice exactly if two ranges share one below the limit. -/
  overlaps : Overlap.ofMasks masks = [] ↔
    ∀ a ∈ masks.keys, ∀ b ∈ masks.keys, a ≠ b → ∀ unit < pool.limit,
      ¬((asked requested a).Spans unit ∧ (asked requested b).Spans unit)

/-- Nothing is asked for a slice that has the range for nothing or that is not named. -/
theorem asked_eq_none_iff {slice : Nat} :
    asked requested slice = .none ↔
      requested.get? slice = some .none ∨ requested.get? slice = none := by
  rw [asked]
  cases requested.get? slice <;> simp

theorem mem_keys_ranges_iff (hlimit : pool.limit ≤ pool.size) {masks : SliceMap Mask}
    (h : ranges requested pool tenants persisted = .ok masks) {slice : Nat} :
    slice ∈ masks.keys ↔ slice < tenants ∧ keeps requested persisted slice = false := by
  rw [SortedMap.mem_keys_iff]
  have hspec := ranges_spec hlimit h slice
  split at hspec
  · rename_i hgiven
    obtain ⟨mask, hmask, -⟩ := hspec
    exact iff_of_true ⟨mask, hmask⟩ hgiven
  · rename_i hkept
    refine iff_of_false ?_ hkept
    rintro ⟨mask, hmask⟩
    cases hspec.symm.trans hmask

theorem isSet_ranges_iff (hlimit : pool.limit ≤ pool.size) {masks : SliceMap Mask}
    (h : ranges requested pool tenants persisted = .ok masks) {slice : Nat} {mask : Mask}
    (hmask : masks.get? slice = some mask) : mask.width = pool.size ∧
      ∀ unit, mask.isSet unit = true ↔ unit < pool.limit ∧ (asked requested slice).Spans unit := by
  have hspec := ranges_spec hlimit h slice
  split at hspec
  · obtain ⟨mask', hmask', hwidth, hset⟩ := hspec
    obtain rfl := Option.some.inj (hmask.symm.trans hmask')
    exact ⟨hwidth, fun unit => by rw [hset, Range.holds_iff_spans]⟩
  · cases hspec.symm.trans hmask

theorem exactRanges_of_eq_ok (hlimit : pool.limit ≤ pool.size) {masks : SliceMap Mask}
    (h : ranges requested pool tenants persisted = .ok masks) :
    ExactRanges requested pool tenants persisted masks := by
  refine ⟨fun slice => ?_, fun slice mask hmask => isSet_ranges_iff hlimit h hmask, ?_⟩
  · rw [mem_keys_ranges_iff hlimit h, ← asked_eq_none_iff, ← keeps_iff, Bool.not_eq_true]
  · rw [Overlap.ofMasks_eq_nil_iff]
    constructor
    · intro hdisjoint a ha b hb hab unit hunit ⟨hspans, hspans'⟩
      obtain ⟨m, hm⟩ := SortedMap.mem_keys_iff.1 ha
      obtain ⟨n, hn⟩ := SortedMap.mem_keys_iff.1 hb
      have hset := ((isSet_ranges_iff hlimit h hm).2 unit).2 ⟨hunit, hspans⟩
      have hset' := ((isSet_ranges_iff hlimit h hn).2 unit).2 ⟨hunit, hspans'⟩
      exact Bool.eq_false_iff.1 (hdisjoint a b m n hm hn hab unit hset) hset'
    · intro hapart a b m n hm hn hab unit hset
      obtain ⟨hunit, hspans⟩ := ((isSet_ranges_iff hlimit h hm).2 unit).1 hset
      rw [← Bool.not_eq_true, (isSet_ranges_iff hlimit h hn).2 unit]
      rintro ⟨-, hspans'⟩
      exact hapart a (SortedMap.mem_keys_iff.2 ⟨m, hm⟩) b (SortedMap.mem_keys_iff.2 ⟨n, hn⟩) hab
        unit hunit ⟨hspans, hspans'⟩

/-- **A request for ranges is refused or given exactly what it asks for**: for every tenant count,
every map of ranges and every recorded map.  The test of a unit against a range is made on words
and agrees with the integers. -/
theorem ranges_exact (hlimit : pool.limit ≤ pool.size) (tenants : Nat)
    (requested : SliceMap Range) (persisted : SliceMap Mask) :
    ((∃ e, ranges requested pool tenants persisted = .error e ∧ e.kind = .invalidRequest) ↔
        ∃ slice ∈ requested.keys, tenants ≤ slice) ∧
      ((∀ slice ∈ requested.keys, slice < tenants) →
        ∃ masks, ranges requested pool tenants persisted = .ok masks ∧
          ExactRanges requested pool tenants persisted masks) ∧
      ∀ (min max : Int64) (unit : UInt64), Range.holdsWord min max unit = true ↔
        (Range.mk min.toInt max.toInt).Spans unit.toNat := by
  refine ⟨exists_ranges_eq_error_iff hlimit persisted, fun hconfigured => ?_,
    fun min max unit => ?_⟩
  · obtain ⟨masks, hmasks⟩ := exists_ranges_eq_ok hlimit hconfigured persisted
    exact ⟨masks, hmasks, exactRanges_of_eq_ok hlimit hmasks⟩
  · rw [Range.holdsWord_eq, Range.holds_iff_spans]

/-- Four of five units are claimable and slice 1 holds the first two: a range beyond the limit, an
unnamed slice that has units, and a range with one negative end. -/
theorem ranges_exact_five :
    let pool : Pool := ⟨5, 4⟩
    let requested : SliceMap Range := SortedMap.ofList [(0, ⟨1, 9⟩), (2, ⟨-1, 3⟩)]
    let persisted : SliceMap Mask := SortedMap.ofList [(1, ⟨[true, true, false, false, false]⟩)]
    pool.limit ≤ pool.size ∧
      ranges requested pool 3 persisted = .ok (SortedMap.ofList
        [(0, ⟨[false, true, true, true, false]⟩), (2, ⟨[false, false, false, false, false]⟩)]) ∧
      ∃ masks, ranges requested pool 3 persisted = .ok masks ∧
        ExactRanges requested pool 3 persisted masks := by
  intro pool requested persisted
  have hlimit : pool.limit ≤ pool.size := by decide
  have hconfigured : ∀ slice ∈ requested.keys, slice < 3 := by decide +kernel
  obtain ⟨-, hgranted, -⟩ := ranges_exact hlimit 3 requested persisted
  exact ⟨hlimit, by rfl, hgranted hconfigured⟩

end RanSlicing.Allocation
