/-
Rounds of the controller, one after the other.

A round reads the records once, obeys its rules and closes with the policies.  It is taken apart
here into these three: the opening says what was read (`opening`), the rules are a fold of what
one rule does, and the close either leaves the store alone or tries one write of the policies
(`Closed`).  What the copy of the policies has become by then is known without looking at the
masks (`switchedBy`).

A round in which no rule wants anything (`Rests`) leaves the store as it is, to the point that a
journal of it has no further entry.  A run is a fold of rounds (`after`); nothing of the
controller but the number of the round changes in its course.
-/
import RanSlicing.Proofs.Control.Lockstep
import RanSlicing.Proofs.Control.Rule

namespace RanSlicing

open Store
open Number (wordMax)

variable {σ : Type} [Store σ]

/-! ### The policies in the course of a round -/

/-- The table with the switches that the rules want, one after the other. -/
def switchedBy (tenants : Nat) (snapshot : Snapshot) (rules : List Rule) (table : PolicyTable) :
    PolicyTable :=
  rules.foldl (fun table rule => rule.switched tenants snapshot table) table

section

variable {tenants : Nat} {snapshot : Snapshot}

/-- The rules touch the policies of their own slices only. -/
theorem get?_switchedBy {rules : List Rule} {slice : Nat}
    (h : ∀ rule ∈ rules, rule.slice ≠ slice) (table : PolicyTable) :
    (switchedBy tenants snapshot rules table).get? slice = table.get? slice := by
  induction rules generalizing table with
  | nil => rfl
  | cons rule rest ih =>
      obtain ⟨hrule, hrest⟩ := List.forall_mem_cons.1 h
      show (switchedBy tenants snapshot rest (rule.switched tenants snapshot table)).get? slice = _
      rw [ih hrest]
      exact table.get?_switched_ne hrule.symm _

/-- A table that rules have switched can be written over the one they started from. -/
theorem extends_switchedBy {rules : List Rule} (hrules : ∀ rule ∈ rules, rule.slice ≤ wordMax)
    {old table : PolicyTable} (h : Extends old table) :
    Extends old (switchedBy tenants snapshot rules table) := by
  induction rules generalizing table with
  | nil => exact h
  | cons rule rest ih =>
      obtain ⟨hrule, hrest⟩ := List.forall_mem_cons.1 hrules
      refine ih hrest ?_
      show Extends old (table.switched rule.slice (rule.policyChange? tenants snapshot table))
      cases rule.policyChange? tenants snapshot table with
      | none => exact h
      | some change => exact h.insert hrule change.current

end

namespace Round

variable {pool : Pool} {tenants : Nat} {snapshot : Snapshot}

theorem policies_foldl_obey (rules : List Rule) (r : Round σ) :
    (rules.foldl (obey pool tenants snapshot) r).policies =
      r.policies.map (switchedBy tenants snapshot rules) := by
  induction rules generalizing r with
  | nil => exact (Option.map_id_apply ..).symm
  | cons rule rest ih =>
      rw [List.foldl_cons, ih, policies_obey, Option.map_map]
      rfl

/-- If no switch is told, the copy of the policies is as it was. -/
theorem switchedBy_of_not_switched (rules : List Rule) {r : Round σ} {table : PolicyTable}
    (htable : r.policies = some table)
    (h : (rules.foldl (obey pool tenants snapshot) r).hasSwitched = false) :
    r.hasSwitched = false ∧ switchedBy tenants snapshot rules table = table := by
  induction rules generalizing r table with
  | nil => exact ⟨h, rfl⟩
  | cons rule rest ih =>
      have htable' := policies_obey pool tenants snapshot r rule
      rw [htable, Option.map_some] at htable'
      obtain ⟨hobey, hrest⟩ := ih htable' h
      rw [hasSwitched_obey, Bool.or_eq_false_iff, htable, Option.bind_some,
        Option.isSome_eq_false_iff, Option.isNone_iff_eq_none] at hobey
      have hsame : rule.switched tenants snapshot table = table := by
        rw [Rule.switched, hobey.2, PolicyTable.switched]
      rw [hsame] at hrest
      refine ⟨hobey.1, ?_⟩
      show switchedBy tenants snapshot rest (rule.switched tenants snapshot table) = table
      rw [hsame, hrest]

/-! ### The close -/

/-- What the close of a round has made of it. -/
inductive Closed (r r' : Round (Journal σ)) : Prop
  /-- There was nothing to write. -/
  | idle (h : r.policies = none ∨ r.hasSwitched = false) (store : r'.store = r.store)
  /-- The policies came on record. -/
  | accepted {table : PolicyTable} (policies : r.policies = some table)
      (switched : r.hasSwitched = true) (written : PoliciesWritten r.store r'.store table)
      (entered : r'.store.attempts = r.store.attempts ++ [.policies table (.ok ())])
  /-- The policies were refused, and all is as it was. -/
  | refused {table : PolicyTable} {e : Fault} (policies : r.policies = some table)
      (switched : r.hasSwitched = true) (same : SameRecords r.store r'.store)
      (entered : r'.store.attempts = r.store.attempts ++ [.policies table (.error e)])

variable {sound : σ → Prop} {fits : Nat → Prop}

theorem readPolicies_foldl_obey (laws : Laws sound fits) (pool : Pool) (snapshot : Snapshot)
    (rules : List Rule) {r : Round (Journal σ)} (hr : InStep (fun j => sound j.store) tenants r) :
    readPolicies (rules.foldl (obey pool tenants snapshot) r).store = readPolicies r.store := by
  induction rules generalizing r with
  | nil => rfl
  | cons rule rest ih =>
      have hstep := (obey_inStep pool laws.journal hr snapshot rule).1
      rw [List.foldl_cons, ih hstep]
      exact (obey_carried laws hr pool snapshot rule).readPolicies

theorem foldl_obey_grows (laws : Laws sound fits) (pool : Pool) (snapshot : Snapshot)
    (rules : List Rule) {r : Round (Journal σ)} (hr : InStep (fun j => sound j.store) tenants r) :
    r.store.attempts <+: (rules.foldl (obey pool tenants snapshot) r).store.attempts := by
  induction rules generalizing r with
  | nil => exact List.prefix_refl _
  | cons rule rest ih =>
      have hstep := (obey_inStep pool laws.journal hr snapshot rule).1
      exact (obey_carried laws hr pool snapshot rule).grows.trans (ih hstep)

theorem close_closed (laws : Laws sound fits) {r : Round (Journal σ)} (hr : sound r.store.store) :
    Closed r r.close := by
  cases hpolicies : r.policies with
  | none =>
      refine .idle (.inl hpolicies) ?_
      simp only [close, hpolicies]
  | some table =>
      cases hswitched : r.hasSwitched with
      | false =>
          refine .idle (.inr hswitched) ?_
          rw [close_of_not_switched hswitched]
      | true =>
          have hclose := close_of_switched hpolicies hswitched
          cases hwrite : writePolicies r.store table with
          | mk answer k =>
              obtain ⟨-, hentered⟩ := Journal.writePolicies_eq_iff.1 hwrite
              rw [hwrite] at hclose
              cases answer with
              | ok u =>
                  have hstore : r.close.store = k := by rw [hclose, filed]
                  exact .accepted hpolicies hswitched
                    (hstore ▸ (laws.journal.policies_accepted hr hwrite).2) (hstore ▸ hentered)
              | error e =>
                  have hstore : r.close.store = k := by rw [hclose, filed]
                  exact .refused hpolicies hswitched
                    (hstore ▸ (laws.journal.policies_refused hr hwrite).2) (hstore ▸ hentered)

/-- The close of a round is about no mask. -/
theorem Closed.masks {r r' : Round (Journal σ)} (h : Closed r r') (slice : Nat) :
    readMask r'.store slice = readMask r.store slice := by
  cases h with
  | idle _ hstore => rw [hstore]
  | accepted _ _ hwritten _ => exact hwritten.masks slice
  | refused _ _ hsame _ => exact hsame.masks slice

theorem Closed.grows {r r' : Round (Journal σ)} (h : Closed r r') :
    r.store.attempts <+: r'.store.attempts := by
  cases h with
  | idle _ hstore => exact hstore ▸ List.prefix_refl _
  | accepted _ _ _ hentered => exact hentered ▸ List.prefix_append ..
  | refused _ _ _ hentered => exact hentered ▸ List.prefix_append ..

end Round

/-! ### Rules at rest -/

/-- The rule wants nothing of the mask. -/
def Rule.Settled (rule : Rule) (tenants : Nat) (snapshot : Snapshot) (pool : Pool)
    (masks : List Mask) : Prop :=
  ∃ change, rule.proposal tenants snapshot pool masks = .settled change

/-- The rule wants nothing, neither of the mask nor of the policies if there are any. -/
structure Rule.Rests (rule : Rule) (tenants : Nat) (snapshot : Snapshot) (pool : Pool)
    (masks : List Mask) (policies : Option PolicyTable) : Prop where
  mask : rule.Settled tenants snapshot pool masks
  policy : policies.bind (rule.policyChange? tenants snapshot) = none

section

variable {pool : Pool} {tenants : Nat} {snapshot : Snapshot}

theorem Rule.Rests.switched {rule : Rule} {masks : List Mask} {policies : Option PolicyTable}
    (h : rule.Rests tenants snapshot pool masks policies) :
    policies.map (rule.switched tenants snapshot) = policies := by
  cases policies with
  | none => rfl
  | some table =>
      have hnone : rule.policyChange? tenants snapshot table = none := h.policy
      rw [Option.map_some, Rule.switched, hnone, PolicyTable.switched]

theorem Rule.settled_of_within {rule : Rule} (h : rule.verdict tenants snapshot = .within)
    (masks : List Mask) : rule.Settled tenants snapshot pool masks := by
  refine ⟨.unchanged, ?_⟩
  rw [Rule.proposal, h, Proposal.ofVerdict]

/-- A rule within its band or passed over is at rest. -/
theorem Rule.rests_of_within {rule : Rule} (h : rule.verdict tenants snapshot = .within)
    (masks : List Mask) (policies : Option PolicyTable) :
    rule.Rests tenants snapshot pool masks policies := by
  refine ⟨settled_of_within h masks, ?_⟩
  rw [Option.bind_eq_none_iff]
  intro table _
  rw [Rule.policyChange?, h]
  rfl

/-- Rules at rest leave the store and the copies alone and tell of no switch. -/
theorem Round.foldl_obey_of_rests (rules : List Rule) {r : Round σ}
    (h : ∀ rule ∈ rules, rule.Rests tenants snapshot pool r.masks r.policies) :
    (rules.foldl (Round.obey pool tenants snapshot) r).store = r.store ∧
      (rules.foldl (Round.obey pool tenants snapshot) r).hasSwitched = r.hasSwitched := by
  induction rules generalizing r with
  | nil => exact ⟨rfl, rfl⟩
  | cons rule rest ih =>
      obtain ⟨hrule, hrest⟩ := List.forall_mem_cons.1 h
      obtain ⟨change, hproposal⟩ := hrule.mask
      have hstore : (Round.obey pool tenants snapshot r rule).store = r.store := by
        rw [store_obey, hproposal, carryOut]
      have hmasks : (Round.obey pool tenants snapshot r rule).masks = r.masks := by
        rw [masks_obey, hproposal, carryOut]
      have hpolicies : (Round.obey pool tenants snapshot r rule).policies = r.policies := by
        rw [policies_obey, hrule.switched]
      obtain ⟨hstore', hswitched⟩ := ih (r := Round.obey pool tenants snapshot r rule)
        (by rwa [hmasks, hpolicies])
      rw [List.foldl_cons, hstore', hstore, hswitched, hasSwitched_obey, hrule.policy]
      simp

end

namespace Heuristic

/-! ### The opening -/

/-- The round that is under way once the masks have been read. -/
def opening (h : Heuristic) (s : σ) (masks : List Mask) : Round σ :=
  match readPolicies s with
  | .ok policies => ⟨s, masks, some policies, { round := h.round }⟩
  | .error e =>
    ⟨s, masks, none, { round := h.round, incidents := [.store .readingPolicies e] }⟩

@[simp] theorem store_opening (h : Heuristic) (s : σ) (masks : List Mask) :
    (h.opening s masks).store = s := by
  unfold opening
  split <;> rfl

@[simp] theorem masks_opening (h : Heuristic) (s : σ) (masks : List Mask) :
    (h.opening s masks).masks = masks := by
  unfold opening
  split <;> rfl

@[simp] theorem policies_opening (h : Heuristic) (s : σ) (masks : List Mask) :
    (h.opening s masks).policies = (readPolicies s).toOption := by
  unfold opening
  split <;> rename_i hread <;> rw [hread] <;> rfl

@[simp] theorem decisions_opening (h : Heuristic) (s : σ) (masks : List Mask) :
    (h.opening s masks).report.decisions = [] := by
  unfold opening
  split <;> rfl

/-- The round when its rules have been obeyed. -/
def ruled (h : Heuristic) (snapshot : Snapshot) (s : σ) (masks : List Mask) : Round σ :=
  h.rules.foldl (Round.obey h.pool h.tenants snapshot) (h.opening s masks)

theorem evaluate_of_unreadable {h : Heuristic} {s : σ} {e : Fault}
    (hmasks : readMasks s h.tenants = .error e) (snapshot : Snapshot) :
    h.evaluate s snapshot = ({ round := h.round, incidents := [.store .readingMasks e] },
      { h with round := h.round + 1 }, s) := by
  simp only [evaluate, hmasks]

theorem evaluate_of_readable {h : Heuristic} {s : σ} {masks : List Mask}
    (hmasks : readMasks s h.tenants = .ok masks) (snapshot : Snapshot) :
    h.evaluate s snapshot = ((h.ruled snapshot s masks).close.report,
      { h with round := h.round + 1 }, (h.ruled snapshot s masks).close.store) := by
  simp only [evaluate, hmasks, ruled, opening]
  cases readPolicies s <;> rfl

/-- The rules serve different slices. -/
theorem slices_of_rules (h : Heuristic) : h.rules.Pairwise fun a b => a.slice ≠ b.slice := by
  simp [rules]

theorem policies_ruled (h : Heuristic) (snapshot : Snapshot) (s : σ) (masks : List Mask) :
    (h.ruled snapshot s masks).policies =
      (readPolicies s).toOption.map (switchedBy h.tenants snapshot h.rules) := by
  rw [ruled, Round.policies_foldl_obey, policies_opening]

section

variable {sound : σ → Prop} {fits : Nat → Prop} {h : Heuristic} {j : Journal σ}
  {masks : List Mask}

theorem opening_inStep (hs : sound j.store) (hmasks : readMasks j h.tenants = .ok masks) :
    Round.InStep (fun k : Journal σ => sound k.store) h.tenants (h.opening j masks) := by
  refine ⟨?_, ?_⟩
  · rw [store_opening]
    exact hs
  · rw [store_opening, masks_opening]
    exact hmasks

theorem ruled_inStep (laws : Laws sound fits) (hs : sound j.store)
    (hmasks : readMasks j h.tenants = .ok masks) (snapshot : Snapshot) :
    Round.InStep (fun k : Journal σ => sound k.store) h.tenants (h.ruled snapshot j masks) :=
  (Round.foldl_obey_inStep h.pool laws.journal snapshot h.rules _ (opening_inStep hs hmasks)).1

/-- The rules leave the policies on record alone. -/
theorem readPolicies_ruled (laws : Laws sound fits) (hs : sound j.store)
    (hmasks : readMasks j h.tenants = .ok masks) (snapshot : Snapshot) :
    readPolicies (h.ruled snapshot j masks).store = readPolicies j := by
  rw [ruled, Round.readPolicies_foldl_obey laws h.pool snapshot h.rules (opening_inStep hs hmasks),
    store_opening]

/-- The policies that came on record are those that were read with what the rules switched. -/
theorem readPolicies_of_written (laws : Laws sound fits) (hs : sound j.store)
    (hmasks : readMasks j h.tenants = .ok masks) {snapshot : Snapshot} {t : Journal σ}
    {table : PolicyTable} (htable : (h.ruled snapshot j masks).policies = some table)
    (hwritten : PoliciesWritten (h.ruled snapshot j masks).store t table) :
    readPolicies t = .ok table ∧
      ∃ old, readPolicies j = .ok old ∧ table = switchedBy h.tenants snapshot h.rules old := by
  rw [policies_ruled] at htable
  cases hpolicies : readPolicies j with
  | error e =>
      rw [hpolicies] at htable
      simp [Except.toOption] at htable
  | ok old =>
      rw [hpolicies] at htable
      obtain rfl := Option.some.inj htable
      have hword : ∀ rule ∈ h.rules, rule.slice ≤ wordMax := by simp [rules, wordMax]
      have hold : readPolicies (h.ruled snapshot j masks).store = .ok old := by
        rw [readPolicies_ruled laws hs hmasks, hpolicies]
      exact ⟨hwritten.policies old hold (extends_switchedBy hword (.refl old)), old, rfl, rfl⟩

/-- A journal only grows in a round. -/
theorem evaluate_grows (laws : Laws sound fits) (hs : sound j.store) (snapshot : Snapshot) :
    j.attempts <+: (h.evaluate j snapshot).2.2.attempts := by
  cases hmasks : readMasks j h.tenants with
  | error e => simp only [evaluate_of_unreadable hmasks, List.prefix_refl]
  | ok masks =>
      have hruled := Round.foldl_obey_grows laws h.pool snapshot h.rules (opening_inStep hs hmasks)
      have hclosed := Round.close_closed laws (ruled_inStep laws hs hmasks snapshot).sound
      rw [store_opening] at hruled
      rw [evaluate_of_readable hmasks]
      exact hruled.trans hclosed.grows

end

/-- No rule wants anything of what is on record. -/
def AtRest (h : Heuristic) (snapshot : Snapshot) (s : σ) : Prop :=
  ∀ masks, readMasks s h.tenants = .ok masks → ∀ rule ∈ h.rules,
    rule.Rests h.tenants snapshot h.pool masks (readPolicies s).toOption

/-- **A round in which no rule wants anything leaves the store as it is.** -/
theorem AtRest.evaluate {h : Heuristic} {s : σ} {snapshot : Snapshot}
    (hrest : h.AtRest snapshot s) : (h.evaluate s snapshot).2.2 = s := by
  cases hmasks : readMasks s h.tenants with
  | error e => rw [evaluate_of_unreadable hmasks]
  | ok masks =>
      have hopening : ∀ rule ∈ h.rules, rule.Rests h.tenants snapshot h.pool
          (h.opening s masks).masks (h.opening s masks).policies := by
        rw [masks_opening, policies_opening]
        exact hrest masks hmasks
      obtain ⟨hstore, hswitched⟩ := Round.foldl_obey_of_rests h.rules hopening
      have hidle : (h.opening s masks).hasSwitched = false := by
        rw [Round.hasSwitched, decisions_opening, List.any_nil]
      rw [evaluate_of_readable hmasks]
      show (h.ruled snapshot s masks).close.store = s
      rw [ruled, Round.close_of_not_switched (hswitched.trans hidle), hstore, store_opening]

/-! ### Runs -/

/-- The controller and the store after rounds on averages, one after the other. -/
def after (h : Heuristic) (s : σ) (snapshots : List Snapshot) : Heuristic × σ :=
  snapshots.foldl (fun state snapshot => (state.1.evaluate state.2 snapshot).2) (h, s)

theorem after_append (h : Heuristic) (s : σ) (past future : List Snapshot) :
    h.after s (past ++ future) = (h.after s past).1.after (h.after s past).2 future :=
  List.foldl_append

theorem after_cons (h : Heuristic) (s : σ) (snapshot : Snapshot) (future : List Snapshot) :
    h.after s (snapshot :: future) =
      { h with round := h.round + 1 }.after (h.evaluate s snapshot).2.2 future := by
  rw [← h.next_evaluate s snapshot]
  rfl

/-- Nothing of the controller but the number of the round changes. -/
theorem settings_after (h : Heuristic) (s : σ) (snapshots : List Snapshot) :
    (h.after s snapshots).1 = { h with round := h.round + snapshots.length } := by
  induction snapshots generalizing h s with
  | nil => rfl
  | cons snapshot rest ih =>
      rw [after_cons, ih, List.length_cons, Nat.add_assoc, Nat.add_comm 1]

/-- One round more. -/
theorem after_concat (h : Heuristic) (s : σ) (past : List Snapshot) (snapshot : Snapshot) :
    (h.after s (past ++ [snapshot])).2 =
      ({ h with round := h.round + past.length }.evaluate (h.after s past).2 snapshot).2.2 := by
  rw [after_append, settings_after]
  rfl

/-- A run that is watched by a journal is the same run. -/
theorem after_journal (h : Heuristic) (j : Journal σ) (snapshots : List Snapshot) :
    (h.after j snapshots).2.store = (h.after j.store snapshots).2 := by
  induction snapshots generalizing h j with
  | nil => rfl
  | cons snapshot rest ih =>
      rw [after_cons, after_cons, ih, (h.evaluate_journal j snapshot).2]

/-- A run of rounds in which no rule wants anything leaves the store as it is. -/
theorem after_of_atRest (h : Heuristic) {s : σ} {snapshots : List Snapshot}
    (hrest : ∀ snapshot ∈ snapshots, h.AtRest snapshot s) : (h.after s snapshots).2 = s := by
  induction snapshots generalizing h with
  | nil => rfl
  | cons snapshot rest ih =>
      obtain ⟨hfirst, hlater⟩ := List.forall_mem_cons.1 hrest
      rw [after_cons, hfirst.evaluate]
      exact ih { h with round := h.round + 1 } hlater

theorem sound_after {sound : σ → Prop} {fits : Nat → Prop} (laws : Laws sound fits)
    (h : Heuristic) {s : σ} (hs : sound s) (snapshots : List Snapshot) :
    sound (h.after s snapshots).2 := by
  induction snapshots generalizing h s with
  | nil => exact hs
  | cons snapshot rest ih =>
      rw [after_cons]
      exact ih _ (evaluate_safe laws h hs snapshot).1

end Heuristic

end RanSlicing
