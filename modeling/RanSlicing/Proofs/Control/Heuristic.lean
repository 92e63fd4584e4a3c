/-
A round of the controller keeps the partition.

A round reads the masks once and then decides on its own copy, so everything rests on the copy
being what the store holds.  `InStep` says so, and `carryOut_inStep` is the step: an accepted
write changes both, a refused one neither.  Below it stand the two proposals.  Each moves the one
unit of its rule, and a claim was checked against every mask of the copy.
-/
import RanSlicing.Proofs.Partition

namespace RanSlicing

open Store

/-! ### What a proposal writes -/

namespace Proposal

variable {pool : Pool} {masks : List Mask} {slice unit : Nat} {mask : Mask} {change : MaskChange}

theorem maskOf_eq (h : slice < masks.length) : maskOf masks slice = masks[slice] := by
  rw [maskOf, List.getD_eq_getElem?_getD, List.getElem?_eq_getElem h]
  rfl

/-- A claim that is written is for a unit of the pool that no slice holds and that the mask is wide
enough for. -/
theorem claim_eq_write (hslice : slice < masks.length)
    (h : claim pool masks slice unit = .write mask change) :
    unit < pool.limit ∧ (∀ m ∈ masks, m.isSet unit = false) ∧
      mask = masks[slice].put unit true ∧ change = .claimed unit ∧
        unit < masks[slice].width := by
  simp only [claim, maskOf_eq hslice] at h
  split at h
  · simp at h
  · rename_i hlimit
    split at h
    · simp at h
    · split at h
      · simp at h
      · rename_i hnone
        rw [List.findIdx?_eq_none_iff] at hnone
        split at h
        · simp at h
        · rename_i hset
          simp only [Mask.set, Mask.assign] at hset
          split at hset
          · rename_i hwidth
            simp only [Except.ok.injEq, Prod.mk.injEq] at hset
            simp only [Proposal.write.injEq] at h
            exact ⟨Nat.lt_of_not_le hlimit, hnone, h.1 ▸ hset.1.symm, h.2.symm, hwidth⟩
          · simp at hset

/-- A release that is written is for a unit of the pool that the slice holds. -/
theorem release_eq_write (hslice : slice < masks.length)
    (h : release pool masks slice unit = .write mask change) :
    unit < pool.limit ∧ masks[slice].isSet unit = true ∧
      mask = masks[slice].put unit false ∧ change = .released unit := by
  simp only [release, maskOf_eq hslice] at h
  split at h
  · simp at h
  · rename_i hlimit
    split at h
    · simp at h
    · rename_i hheld
      split at h
      · simp at h
      · rename_i hclear
        simp only [Mask.clear, Mask.assign] at hclear
        split at hclear
        · simp only [Except.ok.injEq, Prod.mk.injEq] at hclear
          simp only [Proposal.write.injEq] at h
          exact ⟨Nat.lt_of_not_le hlimit, by simpa using hheld, h.1 ▸ hclear.1.symm, h.2.symm⟩
        · simp at hclear

/-- A proposal keeps the width, and what it adds is a unit of the pool that no slice holds. -/
theorem ofVerdict_eq_write {verdict : Verdict} (hslice : slice < masks.length)
    (h : ofVerdict pool masks slice unit verdict = .write mask change) :
    mask.width = masks[slice].width ∧ ∀ u, mask.isSet u = true →
      masks[slice].isSet u = true ∨ u < pool.limit ∧ ∀ m ∈ masks, m.isSet u = false := by
  cases verdict with
  | above =>
      obtain ⟨hlimit, hnone, rfl, -⟩ := claim_eq_write hslice h
      refine ⟨Mask.width_put .., fun u hu => ?_⟩
      rw [Mask.isSet_put] at hu
      split at hu
      · rename_i heq
        rw [heq.1]
        exact .inr ⟨hlimit, hnone⟩
      · exact .inl hu
  | below =>
      obtain ⟨-, -, rfl, -⟩ := release_eq_write hslice h
      refine ⟨Mask.width_put .., fun u hu => ?_⟩
      rw [Mask.isSet_put] at hu
      split at hu
      · exact Bool.noConfusion hu
      · exact .inl hu
  | within => simp [ofVerdict] at h

end Proposal

theorem Rule.lt_of_measure {rule : Rule} {tenants : Nat} {snapshot : Snapshot} {value : Float}
    (h : rule.measure tenants snapshot = .ok value) : rule.slice < tenants := by
  unfold Rule.measure at h
  split at h
  · simp at h
  · rename_i hlt
    exact Nat.lt_of_not_le hlt

/-! ### The copy and the store -/

namespace Round

variable {σ : Type}

@[simp] theorem store_decide (r : Round σ) (d : Decision) : (r.decide d).store = r.store := rfl

@[simp] theorem masks_decide (r : Round σ) (d : Decision) : (r.decide d).masks = r.masks := rfl

@[simp] theorem store_switch (r : Round σ) (slice : Nat) (change : Option PolicyChange) :
    (r.switch slice change).store = r.store := by
  cases change <;> rfl

@[simp] theorem masks_switch (r : Round σ) (slice : Nat) (change : Option PolicyChange) :
    (r.switch slice change).masks = r.masks := by
  cases change <;> rfl

@[simp] theorem report_switch (r : Round σ) (slice : Nat) (change : Option PolicyChange) :
    (r.switch slice change).report = r.report := by
  cases change <;> rfl

variable [Store σ]

/-- The store is sound and holds the masks of the copy. -/
structure InStep (sound : σ → Prop) (tenants : Nat) (r : Round σ) : Prop where
  sound : sound r.store
  read : readMasks r.store tenants = .ok r.masks

variable {sound : σ → Prop} {fits : Nat → Prop} {tenants : Nat} (pool : Pool)

/-- A mask that is to be written fits, being as wide as the one that was read. -/
theorem InStep.fits_of_write {pool : Pool} (laws : Laws sound fits) {r : Round σ}
    (hr : InStep sound tenants r) {slice unit : Nat} {verdict : Verdict} {mask : Mask}
    {change : MaskChange} (hslice : slice < r.masks.length)
    (h : Proposal.ofVerdict pool r.masks slice unit verdict = .write mask change) :
    fits mask.width := by
  rw [(Proposal.ofVerdict_eq_write hslice h).1]
  exact laws.width_of_readMask hr.sound ((readMasks_eq_ok_iff.1 hr.read).2 slice hslice)

theorem carryOut_inStep (laws : Laws sound fits) {r : Round σ} (hr : InStep sound tenants r)
    {slice : Nat} (hslice : slice < tenants) (unit : Nat) (verdict : Verdict) :
    InStep sound tenants
        (r.carryOut slice unit (.ofVerdict pool r.masks slice unit verdict)).2 ∧
      Safe pool tenants r.store
        (r.carryOut slice unit (.ofVerdict pool r.masks slice unit verdict)).2.store := by
  obtain ⟨hlength, hread⟩ := readMasks_eq_ok_iff.1 hr.read
  have hlt : slice < r.masks.length := by omega
  generalize hproposal : Proposal.ofVerdict pool r.masks slice unit verdict = proposal
  cases proposal with
  | settled change => exact ⟨hr, .refl r.store⟩
  | write mask change =>
      obtain ⟨-, hadded⟩ := Proposal.ofVerdict_eq_write hlt hproposal
      have hfits : fits mask.width := hr.fits_of_write laws hlt hproposal
      have hfree := takesFree_of_readMasks hr.read hlt hadded
      simp only [carryOut]
      split
      · rename_i t hwrite
        obtain ⟨hsound, hwritten⟩ := laws.mask_accepted hr.sound hfits hwrite
        refine ⟨⟨hsound, ?_⟩, (laws.writeMask_safe hr.sound hfits hfree hwrite).2⟩
        rw [readMasks_eq_ok_iff]
        refine ⟨by simp [hlength], fun other hother => ?_⟩
        rw [List.length_set] at hother
        rw [List.getElem_set]
        by_cases heq : slice = other
        · subst heq
          rw [if_pos rfl]
          exact hwritten.readMask_self
        · rw [if_neg heq, hwritten.readMask_ne (Ne.symm heq)]
          exact hread other hother
      · rename_i e t hwrite
        obtain ⟨hsound, hsame⟩ := laws.mask_refused hr.sound hwrite
        refine ⟨⟨hsound, ?_⟩, (laws.writeMask_safe hr.sound hfits hfree hwrite).2⟩
        rw [← hr.read]
        exact readMasks_congr hsame.masks tenants

theorem obey_inStep (laws : Laws sound fits) {r : Round σ} (hr : InStep sound tenants r)
    (snapshot : Snapshot) (rule : Rule) :
    InStep sound tenants (obey pool tenants snapshot r rule) ∧
      Safe pool tenants r.store (obey pool tenants snapshot r rule).store := by
  unfold obey
  split
  · exact ⟨⟨hr.sound, hr.read⟩, .refl r.store⟩
  · rename_i value hmeasure
    obtain ⟨hstep, hsafe⟩ := carryOut_inStep pool laws hr
      (Rule.lt_of_measure hmeasure) rule.unit (rule.threshold.classify value)
    refine ⟨⟨?_, ?_⟩, ?_⟩
    · rw [store_decide, store_switch]
      exact hstep.sound
    · rw [store_decide, store_switch, masks_decide, masks_switch]
      exact hstep.read
    · rw [store_decide, store_switch]
      exact hsafe

theorem foldl_obey_inStep (laws : Laws sound fits) (snapshot : Snapshot) :
    ∀ (rules : List Rule) (r : Round σ), InStep sound tenants r →
      InStep sound tenants (rules.foldl (obey pool tenants snapshot) r) ∧
        Safe pool tenants r.store (rules.foldl (obey pool tenants snapshot) r).store := by
  intro rules
  induction rules with
  | nil => intro r hr; exact ⟨hr, .refl r.store⟩
  | cons rule rest ih =>
      intro r hr
      obtain ⟨hstep, hsafe⟩ := obey_inStep pool laws hr snapshot rule
      obtain ⟨hstep', hsafe'⟩ := ih _ hstep
      exact ⟨hstep', hsafe.trans hsafe'⟩

theorem close_safe (laws : Laws sound fits) (tenants : Nat) {r : Round σ}
    (hr : sound r.store) :
    sound r.close.store ∧ Safe pool tenants r.store r.close.store := by
  unfold close
  split
  · exact ⟨hr, .refl r.store⟩
  · split
    · split <;> rename_i hwrite <;> exact laws.writePolicies_safe hr hwrite
    · exact ⟨hr, .refl r.store⟩

end Round

/-! ### A round -/

namespace Heuristic

variable {σ : Type} [Store σ] {sound : σ → Prop} {fits : Nat → Prop}

theorem play_safe (laws : Laws sound fits) (h : Heuristic) (snapshot : Snapshot) {r : Round σ}
    (hr : Round.InStep sound h.tenants r) :
    sound (h.play snapshot r).store ∧
      Safe h.pool h.tenants r.store (h.play snapshot r).store := by
  obtain ⟨hstep, hsafe⟩ :=
    Round.foldl_obey_inStep h.pool laws snapshot h.rules r hr
  obtain ⟨hsound, hsafe'⟩ :=
    Round.close_safe h.pool laws h.tenants hstep.sound
  exact ⟨hsound, hsafe.trans hsafe'⟩

theorem evaluate_safe (laws : Laws sound fits) (h : Heuristic) {s : σ} (hs : sound s)
    (snapshot : Snapshot) :
    sound (h.evaluate s snapshot).2.2 ∧
      Safe h.pool h.tenants s (h.evaluate s snapshot).2.2 := by
  unfold evaluate
  split
  · exact ⟨hs, .refl s⟩
  · rename_i masks hmasks
    split
    · exact play_safe laws h snapshot ⟨hs, hmasks⟩
    · exact play_safe laws h snapshot ⟨hs, hmasks⟩

end Heuristic

end RanSlicing
