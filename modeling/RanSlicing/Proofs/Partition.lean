/-
The slices keep dividing the pool.

Two slices must never hold one unit, and no slice may come to hold a unit beyond the limit.
Both concern all slices at once, while every operation writes one record at a time, and any of
these writes may be refused.  What makes them safe is a condition on the single write: the mask
holds nothing that the slice did not hold before, except units below the limit that no slice
holds *in the store at that moment*.  `writeMask_safe` shows that such a write, accepted or
refused, is `Safe`, and being safe composes.

A move to a number of units meets the condition because a unit that is occupied by any slice is
no candidate.  A round of the controller meets it because its copy of the masks never departs
from the store (`InStep`): the copy changes exactly when the store accepts the write, so what one
rule releases the other may claim, and what a refused write would have released it may not.  An
even split does not look at the store at all, and is safe because it writes every mask.
-/
import RanSlicing.Control.Heuristic
import RanSlicing.Proofs.Allocation.Relative
import RanSlicing.Proofs.Allocation.Request
import RanSlicing.Proofs.Store.Memory

namespace RanSlicing

open Store

variable {σ : Type} [Store σ]

namespace Store

/-- No unit is held by two of the slices below `tenants`. -/
def Partitioned (tenants : Nat) (s : σ) : Prop :=
  ∀ a b, a < tenants → b < tenants → a ≠ b → ∀ unit, Holds s a unit → ¬Holds s b unit

/-- What has happened between two states was safe for the partition. -/
structure Safe (pool : Pool) (tenants : Nat) (s t : σ) : Prop where
  partitioned : Partitioned tenants s → Partitioned tenants t
  readable : ∀ slice, Readable s slice → Readable t slice
  /-- No slice has come to hold a unit that cannot be claimed. -/
  capped : ∀ slice unit, pool.limit ≤ unit → Holds t slice unit → Holds s slice unit

namespace Safe

variable {pool : Pool} {tenants : Nat} {s t u : σ}

theorem of_masks_eq (h : ∀ slice, readMask t slice = readMask s slice) :
    Safe pool tenants s t := by
  refine ⟨fun hs a b ha hb hab unit hunit => ?_, fun slice => ?_, fun slice unit _ => ?_⟩
  · rw [holds_congr (h a)] at hunit
    rw [holds_congr (h b)]
    exact hs a b ha hb hab unit hunit
  · exact (readable_congr (h slice)).2
  · exact (holds_congr (h slice) unit).1

theorem refl (s : σ) : Safe pool tenants s s := of_masks_eq fun _ => rfl

theorem trans (hst : Safe pool tenants s t) (htu : Safe pool tenants t u) :
    Safe pool tenants s u where
  partitioned hs := htu.partitioned (hst.partitioned hs)
  readable slice hs := htu.readable slice (hst.readable slice hs)
  capped slice unit hunit hu := hst.capped slice unit hunit (htu.capped slice unit hunit hu)

end Safe

/-- The mask takes nothing from another slice: what the slice did not hold so far is below the
limit and free. -/
def TakesFree (pool : Pool) (tenants : Nat) (s : σ) (slice : Nat) (mask : Mask) : Prop :=
  ∀ unit, mask.isSet unit = true →
    Holds s slice unit ∨ unit < pool.limit ∧ ∀ other, other < tenants → ¬Holds s other unit

/-- A slice may take what its mask gains if that is free in every mask that was read. -/
theorem takesFree_of_readMasks {pool : Pool} {tenants : Nat} {s : σ} {masks : List Mask}
    (hmasks : readMasks s tenants = .ok masks) {slice : Nat} (hslice : slice < masks.length)
    {mask : Mask}
    (h : ∀ unit, mask.isSet unit = true → masks[slice].isSet unit = true ∨
      unit < pool.limit ∧ ∀ m ∈ masks, m.isSet unit = false) :
    TakesFree pool tenants s slice mask := by
  obtain ⟨hlength, hread⟩ := readMasks_eq_ok_iff.1 hmasks
  intro unit hunit
  rcases h unit hunit with hheld | ⟨hbelow, hnone⟩
  · exact .inl ((holds_iff (hread slice hslice)).2 hheld)
  · refine .inr ⟨hbelow, fun other hother hheld => ?_⟩
    have hother : other < masks.length := by omega
    rw [holds_iff (hread other hother), hnone _ (List.getElem_mem hother)] at hheld
    exact Bool.noConfusion hheld

/-- What a slice holds after such a write it held before, or it is the slice that was written and
the unit was free. -/
theorem TakesFree.holds_cases {pool : Pool} {tenants : Nat} {s t : σ} {slice : Nat} {mask : Mask}
    (h : TakesFree pool tenants s slice mask) (hwritten : MasksWritten s t [(slice, mask)])
    {other unit : Nat} (hheld : Holds t other unit) :
    Holds s other unit ∨ other = slice ∧ unit < pool.limit ∧
      ∀ owner, owner < tenants → ¬Holds s owner unit := by
  by_cases heq : other = slice
  · subst heq
    rw [holds_iff hwritten.readMask_self] at hheld
    exact (h unit hheld).imp_right fun hfree => ⟨rfl, hfree⟩
  · exact .inl ((holds_congr (hwritten.readMask_ne heq) unit).1 hheld)

namespace Laws

variable {sound : σ → Prop} {fits : Nat → Prop} {pool : Pool} {tenants : Nat}

/-- **A write that takes only free units is safe, accepted or refused.** -/
theorem writeMask_safe (laws : Laws sound fits) {s t : σ} {slice : Nat} {mask : Mask}
    {answer : Except Fault Unit} (hs : sound s) (hfits : fits mask.width)
    (hfree : TakesFree pool tenants s slice mask) (h : writeMask s slice mask = (answer, t)) :
    sound t ∧ Safe pool tenants s t := by
  cases answer with
  | error e =>
      obtain ⟨hsound, hsame⟩ := laws.mask_refused hs h
      exact ⟨hsound, .of_masks_eq hsame.masks⟩
  | ok u =>
      obtain ⟨hsound, hwritten⟩ := laws.mask_accepted hs hfits h
      refine ⟨hsound, fun hpart a b ha hb hab unit hunit hunit' => ?_, fun other hread => ?_,
        fun other unit hunit hheld => ?_⟩
      · -- Only one of the two slices can be the one that was written.
        rcases hfree.holds_cases hwritten hunit with hbefore | ⟨hslice, -, hnone⟩
        · rcases hfree.holds_cases hwritten hunit' with hbefore' | ⟨-, -, hnone⟩
          · exact hpart a b ha hb hab unit hbefore hbefore'
          · exact hnone a ha hbefore
        · rcases hfree.holds_cases hwritten hunit' with hbefore' | ⟨hslice', -, -⟩
          · exact hnone b hb hbefore'
          · exact hab (hslice.trans hslice'.symm)
      · by_cases heq : other = slice
        · subst heq
          exact ⟨mask, hwritten.readMask_self⟩
        · exact (readable_congr (hwritten.readMask_ne heq)).2 hread
      · rcases hfree.holds_cases hwritten hheld with hbefore | ⟨-, hlt, -⟩
        · exact hbefore
        · omega

theorem writePolicies_safe (laws : Laws sound fits) {s t : σ} {policies : PolicyTable}
    {answer : Except Fault Unit} (hs : sound s) (h : writePolicies s policies = (answer, t)) :
    sound t ∧ Safe pool tenants s t := by
  cases answer with
  | error e =>
      obtain ⟨hsound, hsame⟩ := laws.policies_refused hs h
      exact ⟨hsound, .of_masks_eq hsame.masks⟩
  | ok u =>
      obtain ⟨hsound, hwritten⟩ := laws.policies_accepted hs h
      exact ⟨hsound, .of_masks_eq hwritten.masks⟩

end Laws

end Store

/-! ### Masks in memory

Whether the masks of a store in memory are a partition can be computed, because every mask can be
read and none reaches beyond its width.
-/

namespace MemoryStore

theorem partitioned_iff {tenants : Nat} {s : MemoryStore} :
    Partitioned tenants s ↔ ∀ a < tenants, ∀ b < tenants, a ≠ b →
      ∀ unit < (s.readMask a).width,
        (s.readMask a).isSet unit = true → (s.readMask b).isSet unit = false := by
  have hholds : ∀ slice unit, Holds s slice unit ↔ (s.readMask slice).isSet unit = true :=
    fun slice _ => holds_iff (readMask_eq s slice)
  constructor
  · intro h a ha b hb hab unit _ hheld
    by_contra hheld'
    exact h a b ha hb hab unit ((hholds a unit).2 hheld)
      ((hholds b unit).2 (by simpa using hheld'))
  · intro h a b ha hb hab unit hheld hheld'
    rw [hholds] at hheld hheld'
    have := h a ha b hb hab unit (Mask.lt_width_of_isSet hheld) hheld
    exact Bool.noConfusion (hheld'.symm.trans this)

instance (tenants : Nat) (s : MemoryStore) : Decidable (Partitioned tenants s) :=
  decidable_of_iff _ partitioned_iff.symm

end MemoryStore

/-! ### Moving one slice -/

namespace Allocation

variable {sound : σ → Prop} {fits : Nat → Prop} {pool : Pool} {tenants : Nat}

theorem adjustSlice_safe (laws : Laws sound fits) (hlimit : pool.limit ≤ pool.size) {s : σ}
    (hs : sound s) (slice target : Nat) :
    sound (adjustSlice pool tenants s slice target).2 ∧
      Safe pool tenants s (adjustSlice pool tenants s slice target).2 := by
  unfold adjustSlice
  split
  · exact ⟨hs, .refl s⟩
  · rename_i hslice
    split
    · exact ⟨hs, .refl s⟩
    · rename_i masks hmasks
      obtain ⟨hlength, hread⟩ := readMasks_eq_ok_iff.1 hmasks
      have hlt : slice < masks.length := by omega
      have hcurrent : masks.getD slice pool.emptyMask = masks[slice] := by
        rw [List.getD_eq_getElem?_getD, List.getElem?_eq_getElem hlt]
        rfl
      simp only [hcurrent]
      set adjustment := masks[slice].adjust (occupied pool masks) target pool with hadjust
      have hwidth : fits adjustment.mask.width := by
        rw [hadjust, Mask.width_adjust]
        exact laws.width_of_readMask hs (hread slice hlt)
      have hfree : TakesFree pool tenants s slice adjustment.mask := by
        refine takesFree_of_readMasks hmasks hlt fun unit hunit => ?_
        rcases Mask.isSet_adjust hunit with hheld | ⟨hbelow, hnone⟩
        · exact .inl hheld
        · rw [isSet_occupied (Nat.lt_of_lt_of_le hbelow hlimit), List.any_eq_false] at hnone
          exact .inr ⟨hbelow, fun m hm => by simpa using hnone m hm⟩
      split
      · split <;> rename_i hwrite <;> exact laws.writeMask_safe hs hwidth hfree hwrite
      · exact ⟨hs, .refl s⟩

/-! ### Splitting evenly -/

theorem applyEqual_safe (laws : Laws sound fits) (hlimit : pool.limit ≤ pool.size)
    (hfits : fits pool.size) {s t : σ} {written : SliceMap Mask} (hs : sound s)
    (h : applyEqual pool tenants s = (.ok written, t)) : sound t ∧ Safe pool tenants s t := by
  obtain ⟨hsplit, -⟩ := carryOut_eq_ok h
  obtain ⟨hsound, hread⟩ :=
    readMask_carryOut laws hfits (fun _ hmasks => fitting_equal hlimit hmasks) hs h
  obtain ⟨masks, hlength, rfl, hbounds, hpairwise⟩ := equal_spec hlimit hsplit
  simp only [SliceMap.get?_ofMasks] at hread
  have hdealt : ∀ slice (hlt : slice < masks.length), readMask t slice = .ok masks[slice] := by
    intro slice hlt
    rw [hread, List.getElem?_eq_getElem hlt]
    rfl
  have hrest : ∀ slice, masks.length ≤ slice → readMask t slice = readMask s slice := by
    intro slice hge
    rw [hread, List.getElem?_eq_none hge]
    rfl
  refine ⟨hsound, fun _ a b ha hb hab unit hunit hunit' => ?_, fun slice hslice => ?_,
    fun slice unit hunit hheld => ?_⟩
  · have ha' : a < masks.length := by omega
    have hb' : b < masks.length := by omega
    rw [holds_iff (hdealt a ha')] at hunit
    rw [holds_iff (hdealt b hb')] at hunit'
    rw [List.pairwise_iff_getElem] at hpairwise
    rcases Nat.lt_or_gt_of_ne hab with hlt | hgt
    · rw [hpairwise a b ha' hb' hlt unit hunit] at hunit'
      exact Bool.noConfusion hunit'
    · rw [hpairwise b a hb' ha' hgt unit hunit'] at hunit
      exact Bool.noConfusion hunit
  · rcases Nat.lt_or_ge slice masks.length with hlt | hge
    · exact ⟨_, hdealt slice hlt⟩
    · exact (readable_congr (hrest slice hge)).2 hslice
  · rcases Nat.lt_or_ge slice masks.length with hlt | hge
    · rw [holds_iff (hdealt slice hlt)] at hheld
      have := (hbounds _ (List.getElem_mem hlt)).below unit hheld
      omega
    · exact (holds_congr (hrest slice hge) unit).1 hheld

end Allocation

end RanSlicing
