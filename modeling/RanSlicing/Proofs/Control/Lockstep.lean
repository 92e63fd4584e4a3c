/-
Controllers on stores in lockstep.

A round of the controller that follows the load is a walk over its rules with a copy of the masks
and of the policies.  On related stores the copies of the masks are equal and those of the
policies related, and as a rule looks at nothing else, it decides the same on both
(`obey_alike`).  A round of the cycle is one request.
-/
import RanSlicing.Proofs.Control.Heuristic
import RanSlicing.Proofs.Control.Rotation
import RanSlicing.Proofs.Lockstep

namespace RanSlicing

open Store

variable {σ τ : Type} [Store σ] [Store τ] {pool : Pool} {tenants : Nat} {R : σ → τ → Prop}
  {T : PolicyTable → PolicyTable → Prop}

theorem Verdict.policyChange?_congr {p q : PolicyTable} {slice : Nat}
    (h : q.inForce slice = p.inForce slice) (verdict : Verdict) (userCount : Nat) :
    verdict.policyChange? q slice userCount = verdict.policyChange? p slice userCount := by
  unfold policyChange?
  rw [h]

namespace Round

/-- Two rounds have the same report and the same masks in their copies, and related stores and
policies. -/
structure Paired (pool : Pool) (tenants : Nat) (R : σ → τ → Prop)
    (T : PolicyTable → PolicyTable → Prop) (r : Round σ) (r' : Round τ) : Prop where
  stores : R r.store r'.store
  masks : r'.masks = r.masks
  length : r.masks.length = tenants
  width : ∀ mask ∈ r.masks, mask.width = pool.size
  policies : ∃ p q, r.policies = some p ∧ r'.policies = some q ∧ T p q
  report : r'.report = r.report

variable {r : Round σ} {r' : Round τ}

omit [Store σ] [Store τ] in
theorem Paired.decide (h : Paired pool tenants R T r r') (d : Decision) :
    Paired pool tenants R T (r.decide d) (r'.decide d) := by
  refine ⟨h.stores, h.masks, h.length, h.width, h.policies, ?_⟩
  rw [Round.decide, Round.decide, h.report]

theorem Paired.switch (lockstep : Lockstep pool tenants R T) (h : Paired pool tenants R T r r')
    {slice : Nat} (hslice : slice < tenants) (change : Option PolicyChange) :
    Paired pool tenants R T (r.switch slice change) (r'.switch slice change) := by
  cases change with
  | none => exact h
  | some change =>
      obtain ⟨p, q, hp, hq, hpq⟩ := h.policies
      refine ⟨h.stores, h.masks, h.length, h.width, ?_, h.report⟩
      refine ⟨p.insert slice change.current, q.insert slice change.current, ?_, ?_,
        lockstep.insert hpq slice hslice change.current⟩
      · simp only [Round.switch, hp, Option.map_some]
      · simp only [Round.switch, hq, Option.map_some]

theorem carryOut_alike (lockstep : Lockstep pool tenants R T) (h : Paired pool tenants R T r r')
    {slice : Nat} (hslice : slice < tenants) (unit : Nat) (verdict : Verdict) :
    Alike (Paired pool tenants R T)
      (r.carryOut slice unit (.ofVerdict pool r.masks slice unit verdict))
      (r'.carryOut slice unit (.ofVerdict pool r'.masks slice unit verdict)) := by
  rw [h.masks]
  have hlt : slice < r.masks.length := by
    rw [h.length]
    exact hslice
  generalize hproposal : Proposal.ofVerdict pool r.masks slice unit verdict = proposal
  cases proposal with
  | settled change => exact ⟨rfl, h⟩
  | write mask change =>
      have hwidth : mask.width = pool.size := by
        rw [(Proposal.ofVerdict_eq_write hlt hproposal).1]
        exact h.width _ (List.getElem_mem hlt)
      obtain ⟨answer, s, t, hs, ht, hstores⟩ :=
        (lockstep.writeMask h.stores slice hslice mask hwidth).exists_eq
      simp only [carryOut, hs, ht]
      cases answer with
      | error e =>
          exact ⟨rfl, hstores, h.masks, h.length, h.width, h.policies, by simp only [h.report]⟩
      | ok u =>
          refine ⟨rfl, hstores, by simp only [h.masks], by simpa using h.length, ?_, h.policies,
            by simp only [h.report]⟩
          intro other hother
          rcases List.mem_or_eq_of_mem_set hother with hold | rfl
          · exact h.width other hold
          · exact hwidth

/-- **A rule decides the same on both.** -/
theorem obey_alike (lockstep : Lockstep pool tenants R T) (snapshot : Snapshot) (rule : Rule)
    (h : Paired pool tenants R T r r') :
    Paired pool tenants R T (obey pool tenants snapshot r rule)
      (obey pool tenants snapshot r' rule) := by
  cases hmeasure : rule.measure tenants snapshot with
  | error reason =>
      simp only [obey, hmeasure]
      exact h.decide _
  | ok value =>
      have hslice := Rule.lt_of_measure hmeasure
      obtain ⟨change, u, u', hu, hu', hpaired⟩ := (carryOut_alike lockstep h hslice rule.unit
        (rule.threshold.classify value)).exists_eq
      obtain ⟨p, q, hp, hq, hpq⟩ := hpaired.policies
      simp only [obey, hmeasure, hu, hu', hp, hq, Option.bind_some,
        Verdict.policyChange?_congr (lockstep.inForce hpq rule.slice hslice)]
      exact (hpaired.switch lockstep hslice _).decide _

theorem foldl_obey_alike (lockstep : Lockstep pool tenants R T) (snapshot : Snapshot) :
    ∀ (rules : List Rule) {r : Round σ} {r' : Round τ}, Paired pool tenants R T r r' →
      Paired pool tenants R T (rules.foldl (obey pool tenants snapshot) r)
        (rules.foldl (obey pool tenants snapshot) r') := by
  intro rules
  induction rules with
  | nil => intro r r' h; exact h
  | cons rule rest ih => intro r r' h; exact ih (obey_alike lockstep snapshot rule h)

theorem close_alike (lockstep : Lockstep pool tenants R T) (h : Paired pool tenants R T r r') :
    r'.close.report = r.close.report ∧ R r.close.store r'.close.store := by
  obtain ⟨p, q, hp, hq, hpq⟩ := h.policies
  have hswitched : r'.hasSwitched = r.hasSwitched := by
    rw [hasSwitched, hasSwitched, h.report]
  obtain ⟨answer, s, t, hs, ht, hstores⟩ := (lockstep.writePolicies h.stores hpq).exists_eq
  simp only [close, hp, hq, hswitched]
  split
  · simp only [hs, ht]
    cases answer with
    | error e => exact ⟨by simp only [h.report], hstores⟩
    | ok u => exact ⟨by simp only [h.report], hstores⟩
  · exact ⟨h.report, h.stores⟩

end Round

theorem Heuristic.next_evaluate (h : Heuristic) (s : σ) (snapshot : Snapshot) :
    (h.evaluate s snapshot).2.1 = { h with round := h.round + 1 } := by
  unfold evaluate
  split <;> rfl

/-- **A round of the controller is answered alike.** -/
theorem Heuristic.evaluate_alike {h : Heuristic} (lockstep : Lockstep h.pool h.tenants R T)
    (snapshot : Snapshot) {s : σ} {t : τ} (hst : R s t) :
    (h.evaluate t snapshot).1 = (h.evaluate s snapshot).1 ∧
      R (h.evaluate s snapshot).2.2 (h.evaluate t snapshot).2.2 := by
  obtain ⟨masks, hs, ht, hlength, hwidth⟩ := lockstep.readMasks_eq hst
  obtain ⟨p, q, hp, hq, hpq⟩ := lockstep.readPolicies hst
  simp only [evaluate, hs, ht, hp, hq, play]
  exact Round.close_alike lockstep (Round.foldl_obey_alike lockstep snapshot h.rules
    ⟨hst, rfl, hlength, hwidth, ⟨p, q, rfl, rfl, hpq⟩, rfl⟩)

/-- **A round of the cycle is answered alike.** -/
theorem Rotation.step_alike {c : Rotation} (lockstep : Lockstep c.pool c.tenants R T)
    (hlimit : c.pool.limit ≤ c.pool.size) {s : σ} {t : τ} (hst : R s t) :
    (c.step t).1 = (c.step s).1 ∧ R (c.step s).2.2 (c.step t).2.2 := by
  cases hnext : c.allocations[c.next]? with
  | none =>
      simp only [step, tryStep, hnext]
      exact ⟨trivial, hst⟩
  | some requested =>
      obtain ⟨answer, s', t', hs, ht, hstores⟩ :=
        (lockstep.applyRanges_alike hlimit requested hst).exists_eq
      simp only [step, tryStep, hnext, hs, ht]
      cases answer with
      | error e => exact ⟨rfl, hstores⟩
      | ok written => exact ⟨rfl, hstores⟩

end RanSlicing
