/-
A round of the controller that is watched by a journal.

The report speaks of the writes of a round, and the store afterwards does not tell which of them
were refused.  So the round is run on a journal, and what has to be known of that is that it is the
same round: forgetting the journal commutes with each rule and with the close.
-/
import RanSlicing.Control.Heuristic
import RanSlicing.Proofs.Store.Journal

namespace RanSlicing

open Store

variable {σ : Type} [Store σ]

namespace Round

/-! ### Closing a round -/

/-- The round when the store has answered to its policies. -/
def filed (r : Round σ) : Except Fault Unit × σ → Round σ
  | (.ok (), store) => { r with store, report := { r.report with policiesWritten := true } }
  | (.error e, store) =>
    { r with
      store
      report :=
        { r.report with incidents := r.report.incidents ++ [.store .writingPolicies e] } }

theorem close_of_switched {r : Round σ} {table : PolicyTable} (hpolicies : r.policies = some table)
    (h : r.hasSwitched = true) : r.close = r.filed (writePolicies r.store table) := by
  simp only [close, hpolicies, h, if_true]
  cases writePolicies r.store table with
  | mk answer t => cases answer <;> rw [filed, hpolicies]

theorem close_of_not_switched {r : Round σ} (h : r.hasSwitched = false) : r.close = r := by
  unfold close
  split
  · rfl
  · simp [h]

theorem decisions_close (r : Round σ) : r.close.report.decisions = r.report.decisions := by
  unfold close
  split
  · rfl
  · split
    · split <;> rfl
    · rfl

/-! ### Forgetting the journal -/

/-- The round without the journal. -/
def forget (r : Round (Journal σ)) : Round σ := ⟨r.store.store, r.masks, r.policies, r.report⟩

theorem forget_carryOut (r : Round (Journal σ)) (slice unit : Nat) (proposal : Proposal) :
    ((r.carryOut slice unit proposal).1, (r.carryOut slice unit proposal).2.forget) =
      r.forget.carryOut slice unit proposal := by
  cases proposal with
  | settled change => rfl
  | write mask change =>
      simp only [carryOut, forget, ← Journal.forget_writeMask]
      cases writeMask r.store slice mask with
      | mk answer k => cases answer <;> rfl

omit [Store σ] in
theorem forget_switch (r : Round (Journal σ)) (slice : Nat) (change : Option PolicyChange) :
    (r.switch slice change).forget = r.forget.switch slice change := by
  cases change <;> rfl

theorem forget_obey (pool : Pool) (tenants : Nat) (snapshot : Snapshot) (r : Round (Journal σ))
    (rule : Rule) :
    (obey pool tenants snapshot r rule).forget = obey pool tenants snapshot r.forget rule := by
  unfold obey
  cases rule.measure tenants snapshot with
  | error reason => rfl
  | ok value =>
      simp only
      have hforget := forget_carryOut r rule.slice rule.unit
        (.ofVerdict pool r.masks rule.slice rule.unit (rule.threshold.classify value))
      show _ = Round.decide (Round.switch _ _ _) _
      rw [show r.forget.masks = r.masks from rfl, ← hforget, ← forget_switch]
      rfl

theorem forget_foldl_obey (pool : Pool) (tenants : Nat) (snapshot : Snapshot) (rules : List Rule)
    (r : Round (Journal σ)) :
    (rules.foldl (obey pool tenants snapshot) r).forget =
      rules.foldl (obey pool tenants snapshot) r.forget := by
  induction rules generalizing r with
  | nil => rfl
  | cons rule rest ih => rw [List.foldl_cons, ih, forget_obey, List.foldl_cons]

theorem forget_close (r : Round (Journal σ)) : r.close.forget = r.forget.close := by
  cases hswitched : r.hasSwitched with
  | false =>
      have hswitched' : r.forget.hasSwitched = false := hswitched
      rw [close_of_not_switched hswitched, close_of_not_switched hswitched']
  | true =>
      have hswitched' : r.forget.hasSwitched = true := hswitched
      cases hpolicies : r.policies with
      | none =>
          have hpolicies' : r.forget.policies = none := hpolicies
          simp only [close, hpolicies, hpolicies']
      | some table =>
          have hpolicies' : r.forget.policies = some table := hpolicies
          rw [close_of_switched hpolicies hswitched, close_of_switched hpolicies' hswitched']
          show _ = r.forget.filed (writePolicies r.store.store table)
          rw [← Journal.forget_writePolicies]
          cases writePolicies r.store table with
          | mk answer k => cases answer <;> rfl

end Round

/-- **A round that is watched by a journal is the same round.** -/
theorem Heuristic.evaluate_journal (h : Heuristic) (j : Journal σ) (snapshot : Snapshot) :
    (h.evaluate j snapshot).1 = (h.evaluate j.store snapshot).1 ∧
      (h.evaluate j snapshot).2.2.store = (h.evaluate j.store snapshot).2.2 := by
  have hplay : ∀ r : Round (Journal σ), (h.play snapshot r).forget = h.play snapshot r.forget := by
    intro r
    rw [play, Round.forget_close, Round.forget_foldl_obey]
    rfl
  unfold evaluate
  rw [Journal.readMasks_eq, Journal.readPolicies_eq]
  cases readMasks j.store h.tenants with
  | error e => exact ⟨rfl, rfl⟩
  | ok masks =>
      cases readPolicies j.store with
      | error e =>
          have hround := hplay ⟨j, masks, none,
            { round := h.round, incidents := [.store .readingPolicies e] }⟩
          exact ⟨congrArg Round.report hround, congrArg Round.store hround⟩
      | ok table =>
          have hround := hplay ⟨j, masks, some table, { round := h.round }⟩
          exact ⟨congrArg Round.report hround, congrArg Round.store hround⟩

end RanSlicing
