/-
What the report of a cycle says, and what its round wrote.

A round that carried its allocation out lists the masks it wrote, and a round that decided on
nothing wrote nothing, so both reports are true.  Between them lies the round that is interrupted:
some masks came on record before one was refused.  Its report is made anew from the fault alone and
lists no mask, so it passes for a round that changed nothing.  This is the only case in which a
report is wrong, and it is wrong each time, because what a refused round wrote is a beginning of
what it decided on and not all of it (`step_cases_journal`).
-/
import RanSlicing.Control.Rotation
import RanSlicing.Proofs.Allocation.Refusal

namespace RanSlicing

open Store

variable {σ : Type} [Store σ]

namespace Rotation

/-- The report of a round whose request was answered. -/
def reportOf (c : Rotation) : Except Fault (SliceMap Mask) → Report
  | .ok written => { round := c.round, masksWritten := written.keys }
  | .error e => { round := c.round, incidents := [.store (.allocating c.next) e] }

theorem step_of_none {c : Rotation} (h : c.allocations[c.next]? = none) (s : σ) :
    c.step s = ({ round := c.round }, c.advance, s) := by
  simp only [step, tryStep, h]

theorem step_of_some {c : Rotation} {requested : SliceMap Range}
    (h : c.allocations[c.next]? = some requested) (s : σ) :
    c.step s = (c.reportOf (Allocation.applyRanges c.pool c.tenants requested s).1, c.advance,
      (Allocation.applyRanges c.pool c.tenants requested s).2) := by
  simp only [step, tryStep, h]
  cases Allocation.applyRanges c.pool c.tenants requested s with
  | mk answer t => cases answer <;> rfl

/-- A round that is watched by a journal is the same round. -/
theorem step_journal (c : Rotation) (j : Journal σ) :
    (c.step j).1 = (c.step j.store).1 ∧ (c.step j).2.2.store = (c.step j.store).2.2 := by
  cases hnext : c.allocations[c.next]? with
  | none =>
      rw [step_of_none hnext, step_of_none hnext]
      exact ⟨rfl, rfl⟩
  | some requested =>
      have hforget := Allocation.forget_apply c.pool c.tenants j (.ranges requested)
      rw [step_of_some hnext, step_of_some hnext]
      exact ⟨congrArg (fun o => c.reportOf o.1) hforget, congrArg Prod.snd hforget⟩

/-- A round wrote all the masks that it lists, or was refused and lists none. -/
theorem step_cases_journal (c : Rotation) (s : σ) :
    (∃ masks : SliceMap Mask,
        Journal.Tried masks.entries (.ok ()) (c.step (Journal.start s)).2.2.attempts ∧
          (c.step (Journal.start s)).1 = { round := c.round, masksWritten := masks.keys }) ∨
      ∃ e, (c.step (Journal.start s)).1 = c.reportOf (.error e) ∧
        ((c.step (Journal.start s)).2.2.attempts = [] ∨
          ∃ entries, Journal.Tried entries (.error e) (c.step (Journal.start s)).2.2.attempts) := by
  cases hnext : c.allocations[c.next]? with
  | none =>
      rw [step_of_none hnext]
      exact .inl ⟨.empty, .none, rfl⟩
  | some requested =>
      rw [step_of_some hnext, Allocation.applyRanges]
      cases (recordedMasks (Journal.start s) c.tenants).bind
          (Allocation.ranges requested c.pool c.tenants) with
      | error e => exact .inr ⟨e, rfl, .inl rfl⟩
      | ok masks =>
          obtain ⟨attempts, hall, htried⟩ :=
            Journal.tried_writeMasks (Journal.start s) masks.entries
          rw [Journal.start, List.nil_append] at hall
          rw [Allocation.carryOut_ok]
          cases hanswer : (writeMasks (Journal.start s) masks.entries).1 with
          | ok u =>
              rw [hanswer] at htried
              exact .inl ⟨masks, by rwa [Journal.start, hall], rfl⟩
          | error e =>
              rw [hanswer] at htried
              exact .inr ⟨e, rfl, .inr ⟨masks.entries, by rwa [Journal.start, hall]⟩⟩

omit [Store σ] in
/-- A round that carried its request out wrote what it decided on. -/
theorem written_of_tried {j : Journal σ} {entries : List (Nat × Mask)}
    (h : Journal.Tried entries (.ok ()) j.attempts) : j.written = entries ∧ ¬j.Interrupted := by
  obtain ⟨k, hwritten, hk⟩ := h.written_eq
  rcases hk with ⟨-, rfl⟩ | ⟨hne, -⟩
  · rw [List.take_length] at hwritten
    exact ⟨hwritten, fun hinterrupted => h.exists_refused_iff.1 hinterrupted.2 rfl⟩
  · exact absurd rfl hne

omit [Store σ] in
/-- A round that was refused is interrupted exactly if it wrote something. -/
theorem interrupted_iff_of_refused {j : Journal σ} {e : Fault}
    (h : j.attempts = [] ∨ ∃ entries, Journal.Tried entries (.error e) j.attempts) :
    (j.Interrupted ↔ j.written ≠ []) ∧
      ((∃ a ∈ j.attempts, a.accepted = true) ↔ j.written ≠ []) := by
  rcases h with hnone | ⟨entries, htried⟩
  · simp [Journal.Interrupted, Journal.written, hnone]
  · have haccepted : (∃ a ∈ j.attempts, a.accepted = true) ↔ j.written ≠ [] :=
      htried.exists_accepted_iff
    refine ⟨?_, haccepted⟩
    rw [Journal.Interrupted, haccepted]
    exact and_iff_left (htried.exists_refused_iff.2 (by simp))

/-- **The report of a round is true unless the round was interrupted**, and then it is not: it
lists no mask, whatever came on record, and names the fault. -/
theorem report_step (c : Rotation) (s : σ) :
    let report := (c.step s).1
    let j := (c.step (Journal.start s)).2.2
    j.store = (c.step s).2.2 ∧
      (report.masksWritten = j.written.map Prod.fst ↔ ¬j.Interrupted) ∧
      ((report.changed = true ↔ ∃ a ∈ j.attempts, a.accepted = true) ↔ ¬j.Interrupted) ∧
      (j.Interrupted → report.masksWritten = [] ∧ report.changed = false ∧
        ∃ e, report.incidents = [.store (.allocating c.next) e]) := by
  intro report j
  obtain ⟨hreport, hstore⟩ := step_journal c (Journal.start s)
  refine ⟨hstore, ?_⟩
  rcases step_cases_journal c s with ⟨masks, htried, heq⟩ | ⟨e, heq, htried⟩
  · obtain ⟨hwritten, hcomplete⟩ : j.written = masks.entries ∧ ¬j.Interrupted :=
      written_of_tried htried
    have haccepted : (∃ a ∈ j.attempts, a.accepted = true) ↔ j.written ≠ [] :=
      htried.exists_accepted_iff
    have hlists : report = { round := c.round, masksWritten := masks.keys } :=
      hreport.symm.trans heq
    rw [haccepted, hlists, hwritten]
    refine ⟨iff_of_true rfl hcomplete, iff_of_true ?_ hcomplete, fun h => absurd h hcomplete⟩
    simp [Report.changed, SortedMap.keys]
  · obtain ⟨hinterrupted, haccepted⟩ : (j.Interrupted ↔ j.written ≠ []) ∧
        ((∃ a ∈ j.attempts, a.accepted = true) ↔ j.written ≠ []) :=
      interrupted_iff_of_refused htried
    have hlists : report = c.reportOf (.error e) := hreport.symm.trans heq
    rw [haccepted, hlists, hinterrupted, not_not]
    refine ⟨?_, ?_, fun _ => ⟨rfl, rfl, e, rfl⟩⟩
    · exact eq_comm.trans List.map_eq_nil_iff
    · exact ⟨fun h => by_contra fun hne => Bool.noConfusion (h.2 hne), fun hnil =>
        iff_of_false Bool.false_ne_true (not_not_intro hnil)⟩

/-- Slice 1 has a directory where its mask should be.  The round gives slice 0 another mask and
reports that it changed nothing. -/
theorem interrupted_step :
    let tree := ((FileTree.empty.put [.text "r"] .directory).put
      [.text "r", .text "slice_allocation_mask_tenant_0.txt"] (.file (.text "1000\n") 0o644)).put
      [.text "r", .text "slice_allocation_mask_tenant_1.txt"] .directory
    let s : FileStore := ⟨{ RecordLayout.standard with directory := ⟨"/r"⟩ }, .full 4, 2, tree, {}⟩
    let c : Rotation := .start (.full 4) 2 [.ofList [(0, ⟨0, 1⟩), (1, ⟨2, 3⟩)]]
    let report := (c.step s).1
    let t := (c.step s).2.2
    let j := (c.step (Journal.start s)).2.2
    readMask s 0 = .ok ⟨[true, false, false, false]⟩ ∧
      readMask t 0 = .ok ⟨[true, true, false, false]⟩ ∧ j.Interrupted ∧
      j.written = [(0, ⟨[true, true, false, false]⟩)] ∧ report.masksWritten = [] ∧
      report.changed = false := by
  decide +kernel

end Rotation

end RanSlicing
