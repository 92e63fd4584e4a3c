/-
One rule of a round, taken apart.

A rule that is passed over writes nothing, and neither does one whose value lies within its band,
so for what happens to the records both have the verdict `within` (`Rule.verdict`).  With it, what
a rule does is one equation, `Round.obey_eq`: what the verdict asks of the mask is carried out,
what it asks of the policy is switched in the copy, and the decision tells both.  The two do not
depend on each other.

What becomes of the mask when the store keeps its laws is `Carried`: nothing was to be written, or
a write was accepted and the copy follows it, or it was refused and nothing has changed.
-/
import RanSlicing.Proofs.Control.HeuristicJournal
import RanSlicing.Proofs.Control.Told

namespace RanSlicing

open Store

/-! ### What a rule finds -/

namespace Rule

/-- The slice of the rule is configured and has users, and they report the value. -/
def Finds (rule : Rule) (tenants : Nat) (snapshot : Snapshot) (value : Float) : Prop :=
  rule.slice < tenants ∧ ∃ sample, snapshot.get? rule.slice = some sample ∧
    0 < sample.userCount ∧ sample.averages.get? rule.metric = some value

/-- The rule finds a value beyond the upper bound of its band. -/
def Above (rule : Rule) (tenants : Nat) (snapshot : Snapshot) : Prop :=
  ∃ value, rule.Finds tenants snapshot value ∧ value > rule.threshold.upper

/-- The rule finds a value beyond the lower bound of its band. -/
def Below (rule : Rule) (tenants : Nat) (snapshot : Snapshot) : Prop :=
  ∃ value, rule.Finds tenants snapshot value ∧ value < rule.threshold.lower

variable {rule : Rule} {tenants : Nat} {snapshot : Snapshot}

theorem measure_eq_ok_iff {value : Float} :
    rule.measure tenants snapshot = .ok value ↔ rule.Finds tenants snapshot value := by
  unfold measure Finds
  by_cases htenants : tenants ≤ rule.slice
  · simp [htenants, Nat.not_lt.2 htenants]
  · cases hsample : snapshot.get? rule.slice with
    | none => simp [htenants]
    | some sample =>
        by_cases husers : sample.userCount = 0
        · simp [htenants, husers]
        · cases haverage : sample.averages.get? rule.metric with
          | none => simp [htenants, husers, haverage]
          | some found =>
              simp [htenants, husers, haverage, Nat.lt_of_not_le htenants,
                Nat.pos_of_ne_zero husers]

/-- A rule that was passed over finds nothing, and one that was not has one value to compare. -/
instance decidableFinds (rule : Rule) (tenants : Nat) (snapshot : Snapshot) (p : Float → Prop)
    [DecidablePred p] : Decidable (∃ value, rule.Finds tenants snapshot value ∧ p value) :=
  match hmeasure : rule.measure tenants snapshot with
  | .error _ => .isFalse fun ⟨_, hfinds, _⟩ => by
      rw [measure_eq_ok_iff.2 hfinds] at hmeasure
      simp at hmeasure
  | .ok value => decidable_of_iff (p value)
      ⟨fun hvalue => ⟨value, measure_eq_ok_iff.1 hmeasure, hvalue⟩, fun ⟨other, hfinds, hother⟩ => by
        rw [measure_eq_ok_iff.2 hfinds] at hmeasure
        exact Except.ok.inj hmeasure ▸ hother⟩

instance (rule : Rule) (tenants : Nat) (snapshot : Snapshot) :
    Decidable (rule.Above tenants snapshot) :=
  inferInstanceAs (Decidable (∃ value, rule.Finds tenants snapshot value ∧ _))

instance (rule : Rule) (tenants : Nat) (snapshot : Snapshot) :
    Decidable (rule.Below tenants snapshot) :=
  inferInstanceAs (Decidable (∃ value, rule.Finds tenants snapshot value ∧ _))

/-- Where the value lies that the rule finds; a rule that is passed over wants nothing. -/
def verdict (rule : Rule) (tenants : Nat) (snapshot : Snapshot) : Verdict :=
  match rule.measure tenants snapshot with
  | .error _ => .within
  | .ok value => rule.threshold.classify value

theorem above_of_verdict (h : rule.verdict tenants snapshot = .above) :
    rule.Above tenants snapshot := by
  unfold verdict at h
  split at h
  · simp at h
  · rename_i value hmeasure
    unfold Threshold.classify at h
    split at h
    · rename_i habove
      exact ⟨value, measure_eq_ok_iff.1 hmeasure, habove⟩
    · split at h <;> simp at h

theorem below_of_verdict (h : rule.verdict tenants snapshot = .below) :
    rule.Below tenants snapshot := by
  unfold verdict at h
  split at h
  · simp at h
  · rename_i value hmeasure
    unfold Threshold.classify at h
    split at h
    · simp at h
    · split at h
      · rename_i hbelow
        exact ⟨value, measure_eq_ok_iff.1 hmeasure, hbelow⟩
      · simp at h

/-- A rule that finds nothing beyond its band wants nothing. -/
theorem verdict_eq_within (habove : ¬rule.Above tenants snapshot)
    (hbelow : ¬rule.Below tenants snapshot) : rule.verdict tenants snapshot = .within := by
  cases hverdict : rule.verdict tenants snapshot with
  | above => exact absurd (above_of_verdict hverdict) habove
  | below => exact absurd (below_of_verdict hverdict) hbelow
  | within => rfl

theorem lt_of_verdict (h : rule.verdict tenants snapshot ≠ .within) : rule.slice < tenants := by
  unfold verdict at h
  split at h
  · exact absurd rfl h
  · rename_i hmeasure
    exact lt_of_measure hmeasure

/-! ### What a rule wants -/

/-- What the rule wants of the mask of its slice. -/
def proposal (rule : Rule) (tenants : Nat) (snapshot : Snapshot) (pool : Pool)
    (masks : List Mask) : Proposal :=
  .ofVerdict pool masks rule.slice rule.unit (rule.verdict tenants snapshot)

/-- The switch that the rule wants in a table of policies. -/
def policyChange? (rule : Rule) (tenants : Nat) (snapshot : Snapshot) (table : PolicyTable) :
    Option PolicyChange :=
  (rule.verdict tenants snapshot).policyChange? table rule.slice (snapshot.userCount rule.slice)

/-- The table with the switch that the rule wants. -/
def switched (rule : Rule) (tenants : Nat) (snapshot : Snapshot) (table : PolicyTable) :
    PolicyTable :=
  table.switched rule.slice (rule.policyChange? tenants snapshot table)

/-- What the rule enters in the report. -/
def decision (rule : Rule) (tenants : Nat) (snapshot : Snapshot) (mask : MaskChange)
    (policy : Option PolicyChange) : Decision where
  slice := rule.slice
  metric := rule.metric
  userCount := snapshot.userCount rule.slice
  outcome := match rule.measure tenants snapshot with
    | .error reason => .skipped reason
    | .ok value =>
      .evaluated ⟨value, rule.threshold, rule.threshold.classify value, mask, policy⟩

variable {pool : Pool} {masks : List Mask} {mask : Mask} {change : MaskChange}

/-- A rule that writes a mask claims its unit above the band or releases it below. -/
theorem proposal_eq_write (hlength : masks.length = tenants)
    (h : rule.proposal tenants snapshot pool masks = .write mask change) :
    ∃ hslice : rule.slice < masks.length,
      rule.verdict tenants snapshot = .above ∧ masks[rule.slice].Gains mask rule.unit ∨
      rule.verdict tenants snapshot = .below ∧ mask.Gains masks[rule.slice] rule.unit := by
  have hverdict : rule.verdict tenants snapshot ≠ .within := by
    intro hwithin
    simp [proposal, hwithin, Proposal.ofVerdict] at h
  have hslice : rule.slice < masks.length := by
    rw [hlength]
    exact lt_of_verdict hverdict
  refine ⟨hslice, ?_⟩
  rcases Proposal.moves_of_write hslice h with ⟨habove, -, hgains⟩ | ⟨hbelow, -, hgains⟩
  · exact .inl ⟨habove, hgains⟩
  · exact .inr ⟨hbelow, hgains⟩

/-- A rule that switches a policy wants waterfilling above the band or round-robin below, for more
than one user. -/
theorem policyChange?_eq_some {table : PolicyTable} {switch : PolicyChange}
    (h : rule.policyChange? tenants snapshot table = some switch) :
    1 < snapshot.userCount rule.slice ∧ table.inForce rule.slice ≠ switch.current ∧
      (switch.current = .waterfilling ∧ rule.Above tenants snapshot ∨
        switch.current = .roundRobin ∧ rule.Below tenants snapshot) := by
  unfold policyChange? at h
  cases hverdict : rule.verdict tenants snapshot with
  | above =>
      simp only [hverdict, Verdict.policyChange?, Verdict.policy?] at h
      split at h
      · rename_i hswitch
        obtain rfl := Option.some.inj h
        exact ⟨hswitch.1, hswitch.2, .inl ⟨rfl, above_of_verdict hverdict⟩⟩
      · simp at h
  | below =>
      simp only [hverdict, Verdict.policyChange?, Verdict.policy?] at h
      split at h
      · rename_i hswitch
        obtain rfl := Option.some.inj h
        exact ⟨hswitch.1, hswitch.2, .inr ⟨rfl, below_of_verdict hverdict⟩⟩
      · simp at h
  | within => simp [hverdict, Verdict.policyChange?, Verdict.policy?] at h

/-- A rule that is passed over switches nothing. -/
theorem bind_policyChange?_of_skipped {reason : SkipReason}
    (h : rule.measure tenants snapshot = .error reason) (policies : Option PolicyTable) :
    policies.bind (rule.policyChange? tenants snapshot) = none := by
  rw [Option.bind_eq_none_iff]
  intro table _
  simp only [policyChange?, verdict, h]
  rfl

/-- The decision tells the switch. -/
theorem policyChange?_decision (mask : MaskChange) (policies : Option PolicyTable) :
    (rule.decision tenants snapshot mask
      (policies.bind (rule.policyChange? tenants snapshot))).outcome.policyChange? =
      policies.bind (rule.policyChange? tenants snapshot) := by
  cases hmeasure : rule.measure tenants snapshot with
  | ok value =>
      simp only [decision, hmeasure]
      rfl
  | error reason =>
      rw [bind_policyChange?_of_skipped hmeasure]
      simp only [decision, hmeasure]
      rfl

end Rule

/-! ### What a rule does -/

namespace Round

variable {σ : Type}

theorem policies_switch {r : Round σ} {table : PolicyTable} (h : r.policies = some table)
    (slice : Nat) (change : Option PolicyChange) :
    (r.switch slice change).policies = some (table.switched slice change) := by
  cases change with
  | none => exact h
  | some change => simp only [switch, h, Option.map_some, PolicyTable.switched]

variable [Store σ]

@[simp] theorem policies_carryOut (r : Round σ) (slice unit : Nat) (proposal : Proposal) :
    (r.carryOut slice unit proposal).2.policies = r.policies := by
  cases proposal with
  | settled change => rfl
  | write mask change =>
      simp only [carryOut]
      split <;> rfl

@[simp] theorem decisions_carryOut (r : Round σ) (slice unit : Nat) (proposal : Proposal) :
    (r.carryOut slice unit proposal).2.report.decisions = r.report.decisions := by
  cases proposal with
  | settled change => rfl
  | write mask change =>
      simp only [carryOut]
      split <;> rfl

variable (pool : Pool) (tenants : Nat) (snapshot : Snapshot)

/-- **What a rule does**: the mask is carried out, the policy switched, and both are told. -/
theorem obey_eq (r : Round σ) (rule : Rule) :
    obey pool tenants snapshot r rule =
      let carried :=
        r.carryOut rule.slice rule.unit (rule.proposal tenants snapshot pool r.masks)
      let change := r.policies.bind (rule.policyChange? tenants snapshot)
      (carried.2.switch rule.slice change).decide
        (rule.decision tenants snapshot carried.1 change) := by
  cases hmeasure : rule.measure tenants snapshot with
  | ok value =>
      have hverdict : rule.verdict tenants snapshot = rule.threshold.classify value := by
        rw [Rule.verdict, hmeasure]
      have hchange : rule.policyChange? tenants snapshot = fun table =>
          (rule.threshold.classify value).policyChange? table rule.slice
            (snapshot.userCount rule.slice) := by
        funext table
        rw [Rule.policyChange?, hverdict]
      simp only [obey, hmeasure, Rule.proposal, hverdict, hchange, Rule.decision,
        policies_carryOut]
  | error reason =>
      simp only [obey, hmeasure, Rule.bind_policyChange?_of_skipped hmeasure, Rule.proposal,
        Rule.verdict, Rule.decision]
      rfl

theorem store_obey (r : Round σ) (rule : Rule) :
    (obey pool tenants snapshot r rule).store =
      (r.carryOut rule.slice rule.unit
        (rule.proposal tenants snapshot pool r.masks)).2.store := by
  rw [obey_eq, store_decide, store_switch]

theorem masks_obey (r : Round σ) (rule : Rule) :
    (obey pool tenants snapshot r rule).masks =
      (r.carryOut rule.slice rule.unit
        (rule.proposal tenants snapshot pool r.masks)).2.masks := by
  rw [obey_eq, masks_decide, masks_switch]

theorem policies_obey (r : Round σ) (rule : Rule) :
    (obey pool tenants snapshot r rule).policies =
      r.policies.map (rule.switched tenants snapshot) := by
  rw [obey_eq]
  cases hpolicies : r.policies with
  | none =>
      show (switch _ _ _).policies = none
      simp [switch, hpolicies]
  | some table =>
      have hcopy (proposal : Proposal) :
          (r.carryOut rule.slice rule.unit proposal).2.policies = some table := by
        rw [policies_carryOut, hpolicies]
      show (switch _ _ _).policies = _
      rw [policies_switch (hcopy _)]
      rfl

theorem decisions_obey (r : Round σ) (rule : Rule) :
    ∃ mask, (obey pool tenants snapshot r rule).report.decisions = r.report.decisions ++
      [rule.decision tenants snapshot mask
        (r.policies.bind (rule.policyChange? tenants snapshot))] := by
  refine ⟨(r.carryOut rule.slice rule.unit
    (rule.proposal tenants snapshot pool r.masks)).1, ?_⟩
  rw [obey_eq]
  show (switch _ _ _).report.decisions ++ _ = _
  rw [report_switch, decisions_carryOut]

/-- The round has a switch to write if it had one before or the rule wants one. -/
theorem hasSwitched_obey (r : Round σ) (rule : Rule) :
    (obey pool tenants snapshot r rule).hasSwitched =
      (r.hasSwitched || (r.policies.bind (rule.policyChange? tenants snapshot)).isSome) := by
  obtain ⟨mask, hdecisions⟩ := decisions_obey pool tenants snapshot r rule
  rw [hasSwitched, hdecisions, List.any_append, List.any_cons, List.any_nil, Bool.or_false,
    Rule.policyChange?_decision]
  rfl

/-! ### What becomes of the mask -/

/-- What a proposal has made of a round. -/
inductive Carried (slice : Nat) (r r' : Round (Journal σ)) : Proposal → Prop
  /-- Nothing was to be written. -/
  | settled {change : MaskChange} (store : r'.store = r.store) (masks : r'.masks = r.masks) :
      Carried slice r r' (.settled change)
  /-- The write was accepted, and the copy follows it. -/
  | accepted {mask : Mask} {change : MaskChange}
      (written : MasksWritten r.store r'.store [(slice, mask)])
      (masks : r'.masks = r.masks.set slice mask)
      (entered : r'.store.attempts = r.store.attempts ++ [.mask slice mask (.ok ())]) :
      Carried slice r r' (.write mask change)
  /-- The write was refused, and all is as it was. -/
  | refused {mask : Mask} {change : MaskChange} {e : Fault}
      (same : SameRecords r.store r'.store) (masks : r'.masks = r.masks)
      (entered : r'.store.attempts = r.store.attempts ++ [.mask slice mask (.error e)]) :
      Carried slice r r' (.write mask change)

theorem Carried.readMask_ne {slice other : Nat} {r r' : Round (Journal σ)} {proposal : Proposal}
    (h : Carried slice r r' proposal) (hne : other ≠ slice) :
    readMask r'.store other = readMask r.store other := by
  cases h with
  | settled hstore _ => rw [hstore]
  | accepted hwritten _ _ => exact hwritten.readMask_ne hne
  | refused hsame _ _ => exact hsame.masks other

theorem Carried.readPolicies {slice : Nat} {r r' : Round (Journal σ)} {proposal : Proposal}
    (h : Carried slice r r' proposal) :
    Store.readPolicies r'.store = Store.readPolicies r.store := by
  cases h with
  | settled hstore _ => rw [hstore]
  | accepted hwritten _ _ => exact hwritten.policies
  | refused hsame _ _ => exact hsame.policies

theorem Carried.grows {slice : Nat} {r r' : Round (Journal σ)} {proposal : Proposal}
    (h : Carried slice r r' proposal) : r.store.attempts <+: r'.store.attempts := by
  cases h with
  | settled hstore _ => exact hstore ▸ List.prefix_refl _
  | accepted _ _ hentered => exact hentered ▸ List.prefix_append ..
  | refused _ _ hentered => exact hentered ▸ List.prefix_append ..

variable {sound : σ → Prop} {fits : Nat → Prop} {tenants : Nat}

/-- **A rule writes the mask it wants**, if any, and that is all it does to the store. -/
theorem obey_carried (laws : Laws sound fits) {r : Round (Journal σ)}
    (hr : InStep (fun j => sound j.store) tenants r) (pool : Pool) (snapshot : Snapshot)
    (rule : Rule) :
    Carried rule.slice r (obey pool tenants snapshot r rule)
      (rule.proposal tenants snapshot pool r.masks) := by
  have hlength := (readMasks_eq_ok_iff.1 hr.read).1
  have hstore := store_obey pool tenants snapshot r rule
  have hmasks := masks_obey pool tenants snapshot r rule
  cases hproposal : rule.proposal tenants snapshot pool r.masks with
  | settled change =>
      rw [hproposal] at hstore hmasks
      exact .settled hstore hmasks
  | write mask change =>
      obtain ⟨hslice, -⟩ := Rule.proposal_eq_write hlength hproposal
      have hfits : fits mask.width := hr.fits_of_write laws.journal hslice hproposal
      rw [hproposal] at hstore hmasks
      cases hwrite : writeMask r.store rule.slice mask with
      | mk answer k =>
          obtain ⟨hinner, hentered⟩ := Journal.writeMask_eq_iff.1 hwrite
          cases answer with
          | ok u =>
              simp only [carryOut, hwrite] at hstore hmasks
              refine .accepted ?_ hmasks (by rw [hstore, hentered])
              rw [hstore]
              exact (laws.journal.mask_accepted hr.sound hfits hwrite).2
          | error e =>
              simp only [carryOut, hwrite] at hstore hmasks
              refine .refused ?_ hmasks (by rw [hstore, hentered])
              rw [hstore]
              exact (laws.journal.mask_refused hr.sound hwrite).2

end Round

end RanSlicing
