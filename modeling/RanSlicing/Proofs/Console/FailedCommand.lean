/-
What a command leaves behind that failed although nothing it wrote was refused.

A command reads and writes several records in turn and takes nothing back, so a read that fails
behind a write leaves the records changed, even where the fault is one that is said to leave them
alone and to go away when the command is tried again.  The masks of a request and of a move are
written before the policies are read for display, and a policy is set before the masks are read that
its slice is to be moved in.  These are the only such reads: a command fails with its writes in place
only if one of them fails (`ApplyFailed`, `SetFailed`), so on records that can all be read a command
that fails has done nothing.
-/
import RanSlicing.Console.View
import RanSlicing.Proofs.Allocation.Refusal
import RanSlicing.Proofs.DryRun

namespace RanSlicing

open Store
open Number (wordMax)

variable {σ : Type} [Store σ] {pool : Pool} {tenants : Nat}

/-! ### Moving one slice -/

namespace Allocation

/-- A move of one slice ends before its write, writes nothing, or ends with its write. -/
theorem adjustSlice_cases (pool : Pool) (tenants : Nat) (s : σ) (slice target : Nat) :
    (∃ e, adjustSlice pool tenants s slice target = (.error e, s) ∧
        (tenants ≤ slice ∨ readMasks s tenants = .error e)) ∨
      (∃ adjustment, adjustSlice pool tenants s slice target = (.ok adjustment, s)) ∨
      ∃ adjustment old, slice < tenants ∧ readMask s slice = .ok old ∧
        adjustment.mask.width = old.width ∧ adjustSlice pool tenants s slice target =
          ((writeMask s slice adjustment.mask).1.map fun _ => adjustment,
            (writeMask s slice adjustment.mask).2) := by
  unfold adjustSlice
  by_cases hslice : tenants ≤ slice
  · rw [if_pos hslice]
    exact .inl ⟨_, rfl, .inl hslice⟩
  · rw [if_neg hslice]
    cases hmasks : readMasks s tenants with
    | error e => exact .inl ⟨e, rfl, .inr rfl⟩
    | ok masks =>
        obtain ⟨hlength, hread⟩ := readMasks_eq_ok_iff.1 hmasks
        have hlt : slice < masks.length := by omega
        simp only [List.getD_eq_getElem?_getD, List.getElem?_eq_getElem hlt, Option.getD_some]
        set adjustment := masks[slice].adjust (occupied pool masks) target pool with hadjust
        split
        · refine .inr (.inr ⟨adjustment, masks[slice], by omega, hread slice hlt, ?_, ?_⟩)
          · rw [hadjust, Mask.width_adjust]
          · cases writeMask s slice adjustment.mask with
            | mk answer t => cases answer <;> rfl
        · exact .inr (.inl ⟨adjustment, rfl⟩)

theorem forget_adjustSlice (j : Journal σ) (slice target : Nat) :
    Journal.forget (adjustSlice pool tenants j slice target) =
      adjustSlice pool tenants j.store slice target := by
  unfold adjustSlice
  split
  · rfl
  · rw [Journal.readMasks_eq]
    cases readMasks j.store tenants with
    | error e => rfl
    | ok masks =>
        simp only
        split
        · rw [← Journal.forget_writeMask]
          cases writeMask j slice _ with
          | mk answer k => cases answer <;> rfl
        · rfl

end Allocation

namespace Operator

/-! ### Setting a policy -/

/-- A policy that is set ends with its read, changes nothing, or ends with its write. -/
theorem updatePolicy_cases (s : σ) (slice : Nat) (target : Policy) :
    (∃ e, updatePolicy s slice target = (.error e, s)) ∨
      ∃ old, readPolicies s = .ok old ∧ (updatePolicy s slice target = (.ok none, s) ∨
        updatePolicy s slice target =
          ((writePolicies s (old.insert slice target)).1.map fun _ => some (old.inForce slice),
            (writePolicies s (old.insert slice target)).2)) := by
  unfold updatePolicy
  cases readPolicies s with
  | error e => exact .inl ⟨e, rfl⟩
  | ok old =>
      refine .inr ⟨old, rfl, ?_⟩
      simp only [PolicyTable.set]
      cases old.get? slice != some target with
      | false => exact .inl rfl
      | true =>
          right
          simp only
          cases writePolicies s (old.insert slice target) with
          | mk answer t => cases answer <;> rfl

/-! ### Watched by a journal -/

theorem forget_apply (pool : Pool) (tenants : Nat) (j : Journal σ) (request : Request) :
    Journal.forget (apply pool tenants j request) = apply pool tenants j.store request := by
  simp only [apply, ← Allocation.forget_apply]
  cases Allocation.apply pool tenants j request with
  | mk answer k => cases answer <;> rfl

theorem forget_updatePolicy (j : Journal σ) (slice : Nat) (policy : Policy) :
    Journal.forget (updatePolicy j slice policy) = updatePolicy j.store slice policy := by
  unfold updatePolicy
  rw [Journal.readPolicies_eq]
  cases readPolicies j.store with
  | error e => rfl
  | ok policies =>
      simp only [PolicyTable.set]
      cases policies.get? slice != some policy with
      | false => rfl
      | true =>
          simp only [← Journal.forget_writePolicies]
          cases writePolicies j _ with
          | mk answer k => cases answer <;> rfl

theorem forget_resizeSlice (j : Journal σ) (slice units : Nat) (previous : Option Policy) :
    Journal.forget (resizeSlice pool tenants j slice units previous) =
      resizeSlice pool tenants j.store slice units previous := by
  simp only [resizeSlice, ← Allocation.forget_adjustSlice]
  cases Allocation.adjustSlice pool tenants j slice units with
  | mk answer k =>
      cases answer with
      | error e => rfl
      | ok adjustment =>
          simp only [Journal.forget_mk, Journal.readPolicies_eq]
          cases readPolicies k.store <;> rfl

theorem forget_setSlice (pool : Pool) (tenants : Nat) (j : Journal σ) (slice units : Nat)
    (policy : Option Policy) :
    Journal.forget (setSlice pool tenants j slice units policy) =
      setSlice pool tenants j.store slice units policy := by
  cases policy with
  | none => exact forget_resizeSlice j slice units none
  | some policy =>
      simp only [setSlice]
      split
      · rw [← forget_updatePolicy]
        cases updatePolicy j slice policy with
        | mk answer k =>
            cases answer with
            | error e => rfl
            | ok previous => exact forget_resizeSlice k slice units previous
      · exact forget_resizeSlice j slice units none

/-! ### How a command fails that is refused no write -/

/-- How a request fails: before its first write, or behind its last. -/
inductive ApplyFailed (pool : Pool) (tenants : Nat) (request : Request) (s t : σ) (e : Fault) :
    Prop
  | before (h : t = s)
  | behind {masks : SliceMap Mask}
      (decided : Allocation.decision pool tenants s request = .ok masks)
      (written : writeMasks s masks.entries = (.ok (), t)) (unread : readPolicies t = .error e)

/-- How a move of one slice fails: before its write, without one, or behind it. -/
inductive ResizeFailed (tenants slice : Nat) (s t : σ) (e : Fault) : Prop
  | before (h : t = s)
      (cause : tenants ≤ slice ∨ readMasks s tenants = .error e ∨ readPolicies s = .error e)
  | behind {mask old : Mask} (configured : slice < tenants) (held : readMask s slice = .ok old)
      (width : mask.width = old.width) (written : writeMask s slice mask = (.ok (), t))
      (unread : readPolicies t = .error e)

/-- How a slice that is set fails: with its policy as it was, or behind the switch of it. -/
inductive SetFailed (tenants slice : Nat) (policy : Option Policy) (s t : σ) (e : Fault) : Prop
  | before (h : t = s)
  | moved (known : policy = none ∨ ∃ old, readPolicies s = .ok old)
      (h : ResizeFailed tenants slice s t e)
  | switched {target : Policy} {old : PolicyTable} {u : σ} (asked : policy = some target)
      (configured : slice < tenants) (known : readPolicies s = .ok old)
      (written : writePolicies s (old.insert slice target) = (.ok (), u))
      (h : ResizeFailed tenants slice u t e)

theorem readPolicies_of_views {s : σ} {masks : SliceMap Mask} {e : Fault}
    (h : views s masks = .error e) : readPolicies s = .error e := by
  unfold views at h
  cases hread : readPolicies s with
  | error e' =>
      rw [hread] at h
      exact congrArg Except.error (Except.error.inj h)
  | ok policies =>
      rw [hread] at h
      cases h

theorem apply_failed {j k : Journal σ} {request : Request} {e : Fault}
    (h : apply pool tenants j request = (.error e, k)) (hk : k.Unrefused) :
    ApplyFailed pool tenants request j.store k.store e := by
  simp only [apply, Allocation.apply_eq_carryOut, Allocation.decision_journal] at h
  cases hdecision : Allocation.decision pool tenants j.store request with
  | error e' =>
      rw [hdecision] at h
      cases h
      exact .before rfl
  | ok masks =>
      rw [hdecision, Allocation.carryOut_ok] at h
      cases hwrite : writeMasks j masks.entries with
      | mk answer k' =>
          rw [hwrite] at h
          have hstore : writeMasks j.store masks.entries = (answer, k'.store) := by
            rw [← Journal.forget_writeMasks, hwrite, Journal.forget_mk]
          cases answer with
          | error e' =>
              cases h
              cases hk.of_writeMasks hwrite
          | ok u =>
              obtain ⟨hviews, rfl⟩ := Prod.mk.inj h
              exact .behind hdecision hstore (readPolicies_of_views hviews)

/-- The view behind a move fails with the policies. -/
theorem resizeSlice_of_adjusted {s t : σ} {slice units : Nat} {previous : Option Policy}
    {adjustment : Adjustment} (hadjust : Allocation.adjustSlice pool tenants s slice units =
      (.ok adjustment, t)) {u : σ} {e : Fault}
    (h : resizeSlice pool tenants s slice units previous = (.error e, u)) :
    u = t ∧ readPolicies t = .error e := by
  simp only [resizeSlice, hadjust] at h
  cases hread : readPolicies t with
  | error e' =>
      simp only [hread, Prod.mk.injEq, Except.error.injEq] at h
      exact ⟨h.2.symm, congrArg Except.error h.1⟩
  | ok policies => simp [hread] at h

theorem resizeSlice_failed {j k : Journal σ} {slice units : Nat} {previous : Option Policy}
    {e : Fault} (h : resizeSlice pool tenants j slice units previous = (.error e, k))
    (hk : k.Unrefused) : ResizeFailed tenants slice j.store k.store e := by
  rcases Allocation.adjustSlice_cases pool tenants j slice units with
    ⟨e', hadjust, hcause⟩ | ⟨adjustment, hadjust⟩ |
      ⟨adjustment, old, hslice, hheld, hwidth, hadjust⟩
  · simp only [resizeSlice, hadjust] at h
    cases h
    exact .before rfl (hcause.imp_right .inl)
  · obtain ⟨rfl, hread⟩ := resizeSlice_of_adjusted hadjust h
    exact .before rfl (.inr (.inr hread))
  · cases hwrite : writeMask j slice adjustment.mask with
    | mk answer k' =>
        rw [hwrite] at hadjust
        cases answer with
        | error e' =>
            simp only [resizeSlice, hadjust] at h
            cases h
            cases hk.of_writeMask hwrite
        | ok u =>
            obtain ⟨rfl, hread⟩ := resizeSlice_of_adjusted hadjust h
            exact .behind hslice hheld hwidth (Journal.writeMask_eq_iff.1 hwrite).1 hread

theorem setSlice_failed {j k : Journal σ} {slice units : Nat} {policy : Option Policy} {e : Fault}
    (h : setSlice pool tenants j slice units policy = (.error e, k)) (hk : k.Unrefused) :
    SetFailed tenants slice policy j.store k.store e := by
  cases policy with
  | none => exact .moved (.inl rfl) (resizeSlice_failed h hk)
  | some target =>
      simp only [setSlice] at h
      by_cases hslice : slice < tenants
      · rw [if_pos hslice] at h
        rcases updatePolicy_cases j slice target with
          ⟨e', hupdate⟩ | ⟨old, hread, hupdate | hupdate⟩
        · rw [hupdate] at h
          cases h
          exact .before rfl
        · rw [hupdate] at h
          exact .moved (.inr ⟨old, hread⟩) (resizeSlice_failed h hk)
        · cases hwrite : writePolicies j (old.insert slice target) with
          | mk answer k' =>
              rw [hupdate, hwrite] at h
              cases answer with
              | error e' =>
                  cases h
                  cases hk.of_writePolicies hwrite
              | ok u =>
                  exact .switched rfl hslice hread (Journal.writePolicies_eq_iff.1 hwrite).1
                    (resizeSlice_failed h hk)
      · -- Nothing is done for a slice that is not configured, not even its policy.
        rw [if_neg hslice] at h
        cases resizeSlice_failed h hk with
        | before hsame => exact .before hsame
        | behind configured => exact absurd configured hslice

/-! ### What is on record then -/

variable {sound : σ → Prop} {s t : σ} {e : Fault}

/-- A request that failed did nothing, or wrote all its masks and could not read the policies. -/
theorem ApplyFailed.records {request : Request} (h : ApplyFailed pool tenants request s t e)
    (laws : Laws sound (· = pool.size)) (hlimit : pool.limit ≤ pool.size) (hs : sound s) :
    t = s ∨ readPolicies s = .error e ∧
      ∃ masks, Allocation.decision pool tenants s request = .ok masks ∧
        MasksWritten s t masks.entries := by
  cases h with
  | before hsame => exact .inl hsame
  | @behind masks hdecided hwritten hunread =>
      have hfits : ∀ entry ∈ masks.entries, entry.2.width = pool.size := fun entry hentry =>
        (Allocation.fitting_decision hlimit s request masks hdecided entry hentry).2
      obtain ⟨-, hrecords⟩ := laws.writeMasks_accepted masks.ascending hfits hs hwritten
      exact .inr ⟨hrecords.policies.symm.trans hunread, masks, hdecided, hrecords⟩

/-- A move that failed did nothing, or wrote its mask and could not read the policies. -/
theorem ResizeFailed.records {slice : Nat} (h : ResizeFailed tenants slice s t e)
    (laws : Laws sound (· = pool.size)) (hs : sound s) :
    t = s ∧ (tenants ≤ slice ∨ readMasks s tenants = .error e ∨ readPolicies s = .error e) ∨
      readPolicies s = .error e ∧ ∃ mask, MasksWritten s t [(slice, mask)] := by
  cases h with
  | before hsame hcause => exact .inl ⟨hsame, hcause⟩
  | @behind mask old _ hheld hwidth hwritten hunread =>
      have hfits : mask.width = pool.size := hwidth.trans (laws.width_of_readMask hs hheld)
      obtain ⟨-, hrecords⟩ := laws.mask_accepted hs hfits hwritten
      exact .inr ⟨hrecords.policies.symm.trans hunread, mask, hrecords⟩

/-- A slice whose setting failed is as it was, or has its policy switched and its masks could not
be read, or was moved and the policies could not be read. -/
theorem SetFailed.records {slice : Nat} {policy : Option Policy}
    (h : SetFailed tenants slice policy s t e) (laws : Laws sound (· = pool.size))
    (htenants : tenants ≤ wordMax) (hs : sound s) :
    t = s ∨
      (readMasks s tenants = .error e ∧ ∃ target old, policy = some target ∧
        readPolicies s = .ok old ∧ PoliciesWritten s t (old.insert slice target) ∧
        readPolicies t = .ok (old.insert slice target)) ∨
      (policy = none ∧ readPolicies s = .error e ∧ ∃ mask, MasksWritten s t [(slice, mask)]) := by
  cases h with
  | before hsame => exact .inl hsame
  | moved hknown hmove =>
      rcases hmove.records laws hs with ⟨hsame, -⟩ | ⟨hunread, hwritten⟩
      · exact .inl hsame
      · rcases hknown with hnone | ⟨old, hread⟩
        · exact .inr (.inr ⟨hnone, hunread, hwritten⟩)
        · cases hread.symm.trans hunread
  | @switched target old u hasked hslice hread hwrite hmove =>
      obtain ⟨hsound, hswitched⟩ := laws.policies_accepted hs hwrite
      have hinsert : readPolicies u = .ok (old.insert slice target) :=
        hswitched.policies old hread ((Extends.refl old).insert (by omega) target)
      rcases hmove.records laws hsound with ⟨rfl, hcause⟩ | ⟨hunread, -⟩
      · rcases hcause with hbeyond | hmasks | hunread
        · omega
        · rw [readMasks_congr hswitched.masks] at hmasks
          exact .inr (.inl ⟨hmasks, target, old, hasked, hread, hswitched, hinsert⟩)
        · cases hinsert.symm.trans hunread
      · cases hinsert.symm.trans hunread

end Operator

/-- **What a command leaves behind that failed although no write of it was refused.**  Whatever the
settings call the records, it has done nothing, or the writes before the read that failed are in
place.  If the policies are called like no mask, it has done nothing unless one of two records could
not be read from the start: the policies, which are read behind the masks of a request and of a
move, or a mask, which is read behind the switch of a policy. -/
theorem records_of_failed_command {settings : SlicingSettings}
    (hvalid : settings.validate = .ok ()) (files : FileTree) (stats : WriteStats) :
    let pool := settings.pool
    let tenants := settings.tenants
    let s : FileStore := ⟨settings.records, pool, tenants, files, stats⟩
    (∀ request e t, Operator.apply pool tenants s request = (.error e, t) →
      (Operator.apply pool tenants (Journal.start s) request).2.Unrefused →
        Operator.ApplyFailed pool tenants request s t e ∧
          (settings.records.Apart → t = s ∨ readPolicies s = .error e ∧
            ∃ masks, Allocation.decision pool tenants s request = .ok masks ∧
              MasksWritten s t masks.entries)) ∧
    ∀ slice units policy e t, Operator.setSlice pool tenants s slice units policy = (.error e, t) →
      (Operator.setSlice pool tenants (Journal.start s) slice units policy).2.Unrefused →
        Operator.SetFailed tenants slice policy s t e ∧
          (settings.records.Apart → t = s ∨
            (readMasks s tenants = .error e ∧ ∃ target old, policy = some target ∧
              readPolicies s = .ok old ∧ PoliciesWritten s t (old.insert slice target) ∧
              readPolicies t = .ok (old.insert slice target)) ∨
            (policy = none ∧ readPolicies s = .error e ∧
              ∃ mask, MasksWritten s t [(slice, mask)])) := by
  intro pool tenants s
  obtain ⟨hmost, hpool⟩ := SlicingSettings.of_validate hvalid
  have htenants : tenants ≤ wordMax := Nat.le_trans hmost (by decide)
  have hsetUp : FileStore.SetUp settings.records pool tenants s := ⟨rfl, rfl, rfl⟩
  refine ⟨fun request e t h hwrites => ?_, fun slice units policy e t h hwrites => ?_⟩
  · cases hrun : Operator.apply pool tenants (Journal.start s) request with
    | mk answer k =>
        have hforget := Operator.forget_apply pool tenants (Journal.start s) request
        rw [hrun] at hwrites hforget
        obtain ⟨rfl, rfl⟩ := Prod.mk.inj (hforget.trans h)
        have hfailed := Operator.apply_failed hrun hwrites
        exact ⟨hfailed, fun hapart => hfailed.records (FileStore.laws hapart pool htenants)
          (Pool.limit_le_size hpool) hsetUp⟩
  · cases hrun : Operator.setSlice pool tenants (Journal.start s) slice units policy with
    | mk answer k =>
        have hforget :=
          Operator.forget_setSlice pool tenants (Journal.start s) slice units policy
        rw [hrun] at hwrites hforget
        obtain ⟨rfl, rfl⟩ := Prod.mk.inj (hforget.trans h)
        have hfailed := Operator.setSlice_failed hrun hwrites
        exact ⟨hfailed, fun hapart => hfailed.records (FileStore.laws hapart pool htenants)
          htenants hsetUp⟩

/-- The mask of slice 1 cannot be read.  A request for ranges fails for it and does nothing; a move
of slice 0 with a policy fails for it when the policy is switched. -/
theorem records_of_unreadable_mask :
    let records : RecordLayout := { RecordLayout.standard with directory := ⟨"/r"⟩ }
    let settings : SlicingSettings := ⟨2, .full 4, records⟩
    let tree := (FileTree.empty.put [.text "r"] .directory).put
      [.text "r", .text "slice_allocation_mask_tenant_1.txt"] (.file (.text "1x00\n") 0o644)
    let s : FileStore := ⟨records, .full 4, 2, tree, {}⟩
    let e : Fault := .maskRecord ⟨"/r/slice_allocation_mask_tenant_1.txt"⟩ (.maskCharacter 'x' 1)
    let request : Request := .ranges (.ofList [(0, ⟨0, 1⟩)])
    let t := (Operator.setSlice (.full 4) 2 s 0 1 (some .waterfilling)).2
    settings.validate = .ok () ∧ Operator.apply (.full 4) 2 s request = (.error e, s) ∧
      Operator.setSlice (.full 4) 2 s 0 1 (some .waterfilling) = (.error e, t) ∧
      PoliciesWritten s t (.ofList [(0, .waterfilling), (1, .roundRobin)]) := by
  intro records settings tree s e request t
  have hvalid : settings.validate = .ok () := by decide +kernel
  have hapart : records.Apart := RecordLayout.apart_of_standard_names rfl rfl
  have hpolicies : readPolicies s = .ok (.uniform 2 .roundRobin) := by decide +kernel
  have hrequest : Operator.apply (.full 4) 2 s request =
      (.error e, (Operator.apply (.full 4) 2 s request).2) := by decide +kernel
  have hmove : Operator.setSlice (.full 4) 2 s 0 1 (some .waterfilling) = (.error e, t) := by
    decide +kernel
  obtain ⟨happly, hset⟩ := records_of_failed_command hvalid tree {}
  refine ⟨hvalid, ?_, hmove, ?_⟩
  · rcases (happly request e _ hrequest (by decide +kernel)).2 hapart with hsame | ⟨hunread, -⟩
    · rw [hrequest, hsame]
    · cases hpolicies.symm.trans hunread
  · rcases (hset 0 1 (some .waterfilling) e t hmove (by decide +kernel)).2 hapart with
      hsame | ⟨-, target, old, hasked, hread, hwritten, -⟩ | ⟨hnone, -⟩
    · exact absurd hsame (by decide +kernel)
    · obtain rfl := Option.some.inj hasked
      obtain rfl := Except.ok.inj (hpolicies.symm.trans hread)
      exact hwritten
    · cases hnone

/-- A command fails with a transient fault and the records are not as they were.  A directory where
the policies should be fails an even split behind its masks and a move behind its mask; one where a
mask should be fails a move with a policy behind the switch of the policy.  No write was refused. -/
theorem changed_by_failed_commands :
    let records : RecordLayout := { RecordLayout.standard with directory := ⟨"/r"⟩ }
    let settings : SlicingSettings := ⟨2, .full 4, records⟩
    let root := FileTree.empty.put [.text "r"] .directory
    let s : FileStore := ⟨records, .full 4, 2, root.put
      [.text "r", .text "slice_scheduling_policy.txt"] .directory, {}⟩
    let t : FileStore := ⟨records, .full 4, 2, root.put
      [.text "r", .text "slice_allocation_mask_tenant_1.txt"] .directory, {}⟩
    let noPolicies : Fault := .unreadable ⟨"/r/slice_scheduling_policy.txt"⟩ .isDirectory
    let noMask : Fault := .unreadable ⟨"/r/slice_allocation_mask_tenant_1.txt"⟩ .isDirectory
    let split := Operator.apply (.full 4) 2 s .equal
    let moved := Operator.setSlice (.full 4) 2 s 0 1 none
    let switched := Operator.setSlice (.full 4) 2 t 0 1 (some .waterfilling)
    settings.validate = .ok () ∧ noPolicies.isTransient = true ∧ noMask.isTransient = true ∧
      readMasks s 2 = .ok [.unassigned 4, .unassigned 4] ∧
      (split.1 = .error noPolicies ∧
        (Operator.apply (.full 4) 2 (Journal.start s) .equal).2.Unrefused ∧
        readMasks split.2 2 =
          .ok [⟨[true, true, false, false]⟩, ⟨[false, false, true, true]⟩]) ∧
      (moved.1 = .error noPolicies ∧
        (Operator.setSlice (.full 4) 2 (Journal.start s) 0 1 none).2.Unrefused ∧
        readMasks moved.2 2 = .ok [⟨[true, false, false, false]⟩, .unassigned 4]) ∧
      (switched.1 = .error noMask ∧
        (Operator.setSlice (.full 4) 2 (Journal.start t) 0 1 (some .waterfilling)).2.Unrefused ∧
        readPolicies t = .ok (.ofList [(0, .roundRobin), (1, .roundRobin)]) ∧
        readPolicies switched.2 = .ok (.ofList [(0, .waterfilling), (1, .roundRobin)])) := by
  decide +kernel

end RanSlicing
