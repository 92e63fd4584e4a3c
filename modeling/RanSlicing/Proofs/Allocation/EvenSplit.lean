/-
How long the runs of the even split are.

Where the runs start is a recursion over the slices, and its closed form says everything about
the split: it ends where the last run ends, and a slice has the units between two starts.

Three slices are the exception.  The first of them takes its extra unit before the others are
served.  If the limit is a multiple of three that unit is one of the last slice's, which is then
a unit short of an even share, and has none at all in a pool of three.
-/
import RanSlicing.Proofs.Allocation.Equal
import RanSlicing.Settings.Slicing

namespace RanSlicing

namespace Mask

variable {m : Mask} {start stop : Nat}

theorem IsRun.count (h : m.IsRun start stop) : m.count = stop - start := by
  have hunits : m.units = List.range' start (stop - start) := by
    refine units_eq (List.pairwise_lt_range' 1) fun unit => ?_
    rw [h unit, List.mem_range'_1]
    omega
  rw [← length_units, hunits, List.length_range']

end Mask

namespace Allocation

variable {pool : Pool} {tenants : Nat}

/-! ### Where the runs start -/

/-- Slices that are not three have runs of one length. -/
theorem runStart_of_ne_three (h : tenants ≠ 3) :
    ∀ slice ≤ tenants, runStart pool tenants slice = slice * (pool.limit / tenants) := by
  intro slice
  induction slice with
  | zero => simp [runStart]
  | succ slice ih =>
      intro hle
      have hquota : quota pool tenants slice = pool.limit / tenants := by
        rw [quota, if_neg (fun hthree => h hthree.1), Nat.add_zero]
      have hroom : (slice + 1) * (pool.limit / tenants) ≤ pool.limit :=
        Nat.le_trans (Nat.mul_le_mul_right _ hle) (Nat.mul_div_le _ _)
      rw [runStart, ih (by omega), hquota, ← Nat.succ_mul]
      exact Nat.min_eq_right hroom

/-- Of three slices the first has an extra unit, and the last has what is left. -/
theorem runStart_three (h : 3 ≤ pool.limit) :
    runStart pool 3 1 = pool.limit / 3 + 1 ∧ runStart pool 3 2 = 2 * (pool.limit / 3) + 1 ∧
      runStart pool 3 3 = pool.limit := by
  simp [runStart, quota, extraUnitTenants]
  omega

/-- Where the last run ends. -/
theorem runStart_tenants (h : tenants ≤ pool.limit) :
    runStart pool tenants tenants =
      if tenants = 3 then pool.limit else tenants * (pool.limit / tenants) := by
  by_cases hthree : tenants = 3
  · subst hthree
    rw [if_pos rfl, (runStart_three h).2.2]
  · rw [if_neg hthree, runStart_of_ne_three hthree tenants (Nat.le_refl _)]

/-- A unit that is dealt lies in one of the runs. -/
theorem exists_run {unit : Nat} :
    ∀ slices, unit < runStart pool tenants slices → ∃ slice < slices,
      runStart pool tenants slice ≤ unit ∧ unit < runStart pool tenants (slice + 1) := by
  intro slices
  induction slices with
  | zero => exact fun h => absurd h (Nat.not_lt_zero unit)
  | succ slices ih =>
      intro h
      by_cases hlt : unit < runStart pool tenants slices
      · obtain ⟨slice, hslice, hrun⟩ := ih hlt
        exact ⟨slice, by omega, hrun⟩
      · exact ⟨slices, Nat.lt_succ_self _, by omega, h⟩

/-! ### The split of a pool -/

/-- A split gives each of the slices, and no other, its run. -/
structure DealsRuns (pool : Pool) (tenants : Nat) (split : SliceMap Mask) : Prop where
  keys : split.keys = List.range tenants
  width : ∀ slice mask, split.get? slice = some mask → mask.width = pool.size
  run : ∀ slice mask, split.get? slice = some mask →
    mask.IsRun (runStart pool tenants slice) (runStart pool tenants (slice + 1))

theorem Runs.dealsRuns {masks : List Mask} (h : Runs pool tenants 0 masks)
    (hlength : masks.length = tenants) : DealsRuns pool tenants (SliceMap.ofMasks masks) where
  keys := by
    rw [SortedMap.keys, SliceMap.entries_ofMasks, List.map_map]
    show masks.zipIdx.map Prod.snd = _
    rw [List.zipIdx_map_snd, hlength, List.range_eq_range']
  width slice mask hmask := (h slice mask (by rwa [SliceMap.get?_ofMasks] at hmask)).1
  run slice mask hmask := (h slice mask (by rwa [SliceMap.get?_ofMasks] at hmask)).2

/-- The split of a pool that has a unit for each slice. -/
theorem exists_equal (hlimit : pool.limit ≤ pool.size) (hpos : tenants ≠ 0)
    (hfits : tenants ≤ pool.limit) :
    ∃ split, equal pool tenants = .ok split ∧ DealsRuns pool tenants split := by
  obtain ⟨masks, hmasks, hlength, hruns⟩ := exists_deal hlimit tenants
  refine ⟨SliceMap.ofMasks masks, ?_, hruns.dealsRuns hlength⟩
  rw [equal, if_neg hpos, if_neg (by omega), hmasks]
  rfl

namespace DealsRuns

variable {split : SliceMap Mask}

theorem lt_tenants (h : DealsRuns pool tenants split) {slice : Nat} {mask : Mask}
    (hmask : split.get? slice = some mask) : slice < tenants := by
  rw [← List.mem_range, ← h.keys, SortedMap.mem_keys_iff]
  exact ⟨mask, hmask⟩

theorem exists_mask (h : DealsRuns pool tenants split) {slice : Nat} (hslice : slice < tenants) :
    ∃ mask, split.get? slice = some mask := by
  rw [← SortedMap.mem_keys_iff, h.keys]
  exact List.mem_range.2 hslice

theorem disjoint (h : DealsRuns pool tenants split) {a b : Nat} {m n : Mask} (hab : a ≠ b)
    (hm : split.get? a = some m) (hn : split.get? b = some n) : m.Disjoint n := by
  refine (h.run a m hm).disjoint (h.run b n hn) ?_
  rcases Nat.lt_or_gt_of_ne hab with hlt | hgt
  · exact .inl (runStart_monotone pool tenants hlt)
  · exact .inr (runStart_monotone pool tenants hgt)

/-- The units that are dealt are those before the last run's end. -/
theorem exists_isSet_iff (h : DealsRuns pool tenants split) (unit : Nat) :
    (∃ slice mask, split.get? slice = some mask ∧ mask.isSet unit = true) ↔
      unit < runStart pool tenants tenants := by
  constructor
  · rintro ⟨slice, mask, hmask, hset⟩
    have hrun := (h.run slice mask hmask unit).1 hset
    have := runStart_monotone pool tenants (show slice + 1 ≤ tenants from h.lt_tenants hmask)
    omega
  · intro hlt
    obtain ⟨slice, hslice, hrun⟩ := exists_run tenants hlt
    obtain ⟨mask, hmask⟩ := h.exists_mask hslice
    exact ⟨slice, mask, hmask, (h.run slice mask hmask unit).2 hrun⟩

end DealsRuns

theorem exists_equal_eq_error_iff (hlimit : pool.limit ≤ pool.size) :
    (∃ e, equal pool tenants = .error e) ↔ tenants = 0 ∨ pool.limit < tenants := by
  constructor
  · rintro ⟨e, he⟩
    by_contra hfits
    obtain ⟨hpos, hfits⟩ := not_or.1 hfits
    obtain ⟨split, hsplit, -⟩ := exists_equal hlimit hpos (Nat.le_of_not_lt hfits)
    rw [hsplit] at he
    cases he
  · intro h
    unfold equal
    by_cases hzero : tenants = 0
    · exact ⟨_, if_pos hzero⟩
    · rw [if_neg hzero, if_pos (by omega)]
      exact ⟨_, rfl⟩

/-! ### The split as a whole -/

/-- A split tiles the first `total` units of the pool, one run for each slice. -/
structure Tiles (pool : Pool) (tenants total : Nat) (split : SliceMap Mask) : Prop where
  /-- The slices `0..tenants` have a mask, and no other slice has. -/
  slices : split.keys = List.range tenants
  /-- Each mask speaks of the whole pool. -/
  width : ∀ slice mask, split.get? slice = some mask → mask.width = pool.size
  /-- The runs follow each other from the first unit to the end. -/
  runs : ∃ start : Nat → Nat, start 0 = 0 ∧ start tenants = total ∧
    ∀ slice mask, split.get? slice = some mask →
      start slice ≤ start (slice + 1) ∧ mask.IsRun (start slice) (start (slice + 1))
  /-- No unit is dealt twice. -/
  disjoint : ∀ a b m n, a ≠ b → split.get? a = some m → split.get? b = some n → m.Disjoint n
  /-- Together the masks hold the first units and no others. -/
  covers : ∀ unit, (∃ slice mask, split.get? slice = some mask ∧ mask.isSet unit = true) ↔
    unit < total

/-- **An even split tiles a beginning of the pool.**  It is refused only if there is no slice or
no unit for each of them. -/
theorem tiles_equal {pool : Pool} (hlimit : pool.limit ≤ pool.size) (tenants : Nat) :
    ((∃ e, equal pool tenants = .error e) ↔ tenants = 0 ∨ pool.limit < tenants) ∧
      (¬(tenants = 0 ∨ pool.limit < tenants) → ∃ split, equal pool tenants = .ok split ∧
        Tiles pool tenants
          (if tenants = 3 then pool.limit else tenants * (pool.limit / tenants)) split) := by
  refine ⟨exists_equal_eq_error_iff hlimit, fun h => ?_⟩
  obtain ⟨hpos, hfits⟩ := not_or.1 h
  obtain ⟨split, hsplit, hruns⟩ := exists_equal hlimit hpos (Nat.le_of_not_lt hfits)
  have hend := runStart_tenants (Nat.le_of_not_lt hfits)
  refine ⟨split, hsplit, ?_⟩
  exact
    { slices := hruns.keys
      width := hruns.width
      runs := ⟨runStart pool tenants, rfl, hend, fun slice mask hmask =>
        ⟨runStart_monotone pool tenants (Nat.le_succ slice), hruns.run slice mask hmask⟩⟩
      disjoint := fun a b m n hab hm hn => hruns.disjoint hab hm hn
      covers := fun unit => by rw [hruns.exists_isSet_iff, hend] }

/-- A pool of seven units, five of them claimable, among three slices. -/
theorem tiles_equal_below_a_limit :
    (5 ≤ 7 ∧ ¬(3 = 0 ∨ 5 < 3)) ∧
      ∃ split, equal ⟨7, 5⟩ 3 = .ok split ∧ Tiles ⟨7, 5⟩ 3 5 split :=
  ⟨by decide, (tiles_equal (show (Pool.mk 7 5).limit ≤ 7 by decide) 3).2 (by decide)⟩

/-! ### The share of a slice -/

/-- How many units a slice gets. -/
def share (pool : Pool) (tenants slice : Nat) : Nat :=
  if tenants = 3 ∧ slice = 0 then pool.limit / 3 + 1
  else if tenants = 3 ∧ slice = 2 then pool.limit / 3 + pool.limit % 3 - 1
  else pool.limit / tenants

theorem share_cases (pool : Pool) (tenants slice : Nat) :
    tenants = 3 ∧ slice = 0 ∧ share pool tenants slice = pool.limit / 3 + 1 ∨
      tenants = 3 ∧ slice = 2 ∧
        share pool tenants slice = pool.limit / 3 + pool.limit % 3 - 1 ∨
      ¬(tenants = 3 ∧ (slice = 0 ∨ slice = 2)) ∧
        share pool tenants slice = pool.limit / tenants := by
  unfold share
  split
  · rename_i hfirst
    exact .inl ⟨hfirst.1, hfirst.2, rfl⟩
  · rename_i hfirst
    split
    · rename_i hlast
      exact .inr (.inl ⟨hlast.1, hlast.2, rfl⟩)
    · exact .inr (.inr ⟨by omega, rfl⟩)

/-- The share of a slice is the length of its run. -/
theorem runStart_succ_sub (hfits : tenants ≤ pool.limit) {slice : Nat} (hslice : slice < tenants) :
    runStart pool tenants (slice + 1) - runStart pool tenants slice = share pool tenants slice := by
  by_cases hthree : tenants = 3
  · subst hthree
    obtain ⟨h₁, h₂, h₃⟩ := runStart_three hfits
    rcases share_cases pool 3 slice with ⟨-, rfl, hshare⟩ | ⟨-, rfl, hshare⟩ | ⟨hinner, hshare⟩
    · rw [h₁, hshare, runStart, Nat.sub_zero]
    · rw [h₂, h₃, hshare]
      omega
    · obtain rfl : slice = 1 := by omega
      rw [h₁, h₂, hshare]
      omega
  · rcases share_cases pool tenants slice with h | h | ⟨-, hshare⟩
    · exact absurd h.1 hthree
    · exact absurd h.1 hthree
    · rw [hshare, runStart_of_ne_three hthree _ hslice,
        runStart_of_ne_three hthree _ (Nat.le_of_lt hslice), Nat.succ_mul, Nat.add_sub_cancel_left]

/-- Only the last of three slices can miss the even share. -/
theorem le_share_iff (hfits : tenants ≤ pool.limit) (slice : Nat) :
    pool.limit / tenants ≤ share pool tenants slice ↔
      ¬(tenants = 3 ∧ slice = 2 ∧ pool.limit % 3 = 0) := by
  rcases share_cases pool tenants slice with ⟨rfl, rfl, hshare⟩ | ⟨rfl, rfl, hshare⟩ |
    ⟨hinner, hshare⟩
  · omega
  · omega
  · omega

/-- Only the last of three slices can go without a unit, and only in a pool of three. -/
theorem share_pos_iff (hpos : 1 ≤ tenants) (hfits : tenants ≤ pool.limit) (slice : Nat) :
    0 < share pool tenants slice ↔ ¬(tenants = 3 ∧ slice = 2 ∧ pool.limit = 3) := by
  have heven : 0 < pool.limit / tenants := Nat.div_pos hfits hpos
  rcases share_cases pool tenants slice with ⟨rfl, rfl, hshare⟩ | ⟨rfl, rfl, hshare⟩ |
    ⟨hinner, hshare⟩
  · omega
  · omega
  · omega

/-- **How fair an even split is.**  Each slice gets the even share, but for the outer two of
three: the first gets one unit more, and the last gets one more, as much, or one less as the
limit leaves two, one or no unit over.  So the even share is missed by the last of three slices
if three divides the limit, and by no other slice; and it alone can end with no unit. -/
theorem count_equal {pool : Pool} (hlimit : pool.limit ≤ pool.size) {tenants : Nat}
    (hpos : 1 ≤ tenants) (hfits : tenants ≤ pool.limit) :
    ∃ split, equal pool tenants = .ok split ∧ ∀ slice < tenants, ∃ mask,
      split.get? slice = some mask ∧ mask.count = share pool tenants slice ∧
        (pool.limit / tenants ≤ mask.count ↔
          ¬(tenants = 3 ∧ slice = 2 ∧ pool.limit % 3 = 0)) ∧
        (0 < mask.count ↔ ¬(tenants = 3 ∧ slice = 2 ∧ pool.limit = 3)) := by
  obtain ⟨split, hsplit, hruns⟩ := exists_equal hlimit (Nat.ne_of_gt hpos) hfits
  refine ⟨split, hsplit, fun slice hslice => ?_⟩
  obtain ⟨mask, hmask⟩ := hruns.exists_mask hslice
  have hcount : mask.count = share pool tenants slice := by
    rw [(hruns.run slice mask hmask).count, runStart_succ_sub hfits hslice]
  refine ⟨mask, hmask, hcount, ?_⟩
  rw [hcount]
  exact ⟨le_share_iff hfits slice, share_pos_iff hpos hfits slice⟩

/-- Six of seven units among three slices: the last one gets a unit, and not its two. -/
theorem count_equal_of_short_slice :
    (6 ≤ 7 ∧ 1 ≤ 3 ∧ 3 ≤ 6) ∧ share ⟨7, 6⟩ 3 2 = 1 ∧
      ∃ split, equal ⟨7, 6⟩ 3 = .ok split ∧ ∃ mask, split.get? 2 = some mask ∧
        mask.count = share ⟨7, 6⟩ 3 2 := by
  obtain ⟨split, hsplit, hcount⟩ :=
    count_equal (show (Pool.mk 7 6).limit ≤ 7 by decide) (show 1 ≤ 3 by decide) (by decide)
  obtain ⟨mask, hmask, hshare, -⟩ := hcount 2 (by decide)
  exact ⟨by decide, by decide, split, hsplit, mask, hmask, hshare⟩

/-- Three slices of a pool of three are settings that pass their check, and the last slice gets
no unit where the even share is one. -/
theorem unserved_slice :
    SlicingSettings.validate ⟨3, ⟨3, 3⟩, .standard⟩ = .ok () ∧ (3 : Nat) / 3 = 1 ∧
      ∃ split mask, equal ⟨3, 3⟩ 3 = .ok split ∧ split.get? 2 = some mask ∧ mask.count = 0 :=
  ⟨by decide, by decide, _, _, rfl, rfl, by decide⟩

end Allocation

end RanSlicing
