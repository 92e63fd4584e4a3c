/-
Which requests a cell carries out.

The settings of a cell are checked once, and the requests it is given are not checked with them: a
request meets the number of slices and the width of the pool when it is carried out.  In a store in
which nothing fails this is the only thing that can go wrong.  There a request is carried out
exactly if it is `Admissible`, and one that is not is refused for its content and changes nothing
(`apply_of_admissible`, `apply_of_not_admissible`).
-/
import RanSlicing.Proofs.Allocation.EvenSplit
import RanSlicing.Proofs.Allocation.ExactRanges
import RanSlicing.Proofs.Allocation.Refusal
import RanSlicing.Proofs.Settings
import RanSlicing.Proofs.Store.Steady

namespace RanSlicing

open Store

/-- The slices that a request names are configured, and a mask that it gives has the width of the
pool. -/
def Request.Admissible (pool : Pool) (tenants : Nat) : Request → Prop
  | .equal => True
  | .ranges requested => ∀ slice ∈ requested.keys, slice < tenants
  | .full slice mask => slice < tenants ∧ mask.width = pool.size

instance (pool : Pool) (tenants : Nat) : DecidablePred (Request.Admissible pool tenants)
  | .equal => inferInstanceAs (Decidable True)
  | .ranges requested => inferInstanceAs (Decidable (∀ slice ∈ requested.keys, slice < tenants))
  | .full slice mask => inferInstanceAs (Decidable (slice < tenants ∧ mask.width = pool.size))

namespace Allocation

variable {σ : Type} [Store σ] {pool : Pool} {tenants : Nat} {request : Request} {s : σ}

theorem exists_decision_eq_ok (hserves : pool.Serves tenants)
    (hs : ∀ slice < tenants, Listable s slice) (h : request.Admissible pool tenants) :
    ∃ masks, decision pool tenants s request = .ok masks := by
  cases request with
  | equal =>
      obtain ⟨split, hsplit, -⟩ := exists_equal hserves.limit_le hserves.pos hserves.fits
      exact ⟨split, hsplit⟩
  | ranges requested =>
      obtain ⟨persisted, hpersisted⟩ := exists_recordedMasks hs
      obtain ⟨masks, hmasks⟩ := exists_ranges_eq_ok hserves.limit_le h persisted
      exact ⟨masks, bind_eq_ok_iff.2 ⟨persisted, hpersisted, hmasks⟩⟩
  | full slice mask =>
      obtain ⟨hslice, hwidth⟩ := h
      rw [decision, if_neg (Nat.not_le.2 hslice), if_neg (not_not.2 hwidth)]
      exact ⟨_, rfl⟩

theorem exists_decision_eq_error (hserves : pool.Serves tenants)
    (hs : ∀ slice < tenants, Listable s slice) (h : ¬request.Admissible pool tenants) :
    ∃ e, decision pool tenants s request = .error e ∧
      (e.kind = .invalidRequest ∨ e.kind = .invalidMask) := by
  cases request with
  | equal => exact absurd trivial h
  | ranges requested =>
      obtain ⟨persisted, hpersisted⟩ := exists_recordedMasks hs
      have hbeyond : ∃ slice ∈ requested.keys, tenants ≤ slice := by
        by_contra hall
        refine h fun slice hslice => ?_
        by_contra hle
        exact hall ⟨slice, hslice, Nat.le_of_not_lt hle⟩
      obtain ⟨e, he, hkind⟩ :=
        (exists_ranges_eq_error_iff hserves.limit_le persisted).2 hbeyond
      refine ⟨e, ?_, .inl hkind⟩
      show (recordedMasks s tenants).bind (ranges requested pool tenants) = _
      rw [hpersisted]
      exact he
  | full slice mask =>
      rw [decision]
      by_cases hslice : tenants ≤ slice
      · rw [if_pos hslice]
        exact ⟨_, rfl, .inl rfl⟩
      · have hwidth : mask.width ≠ pool.size := fun hwidth => h ⟨Nat.lt_of_not_le hslice, hwidth⟩
        rw [if_neg hslice, if_pos hwidth]
        exact ⟨_, rfl, .inr rfl⟩

/-! ### Where no write is refused -/

variable {ready : σ → Prop}

/-- **An admissible request is carried out.** -/
theorem apply_of_admissible (willing : Willing pool tenants ready) (hserves : pool.Serves tenants)
    (hs : ready s) (h : request.Admissible pool tenants) :
    ∃ masks t, apply pool tenants s request = (.ok masks, t) ∧ ready t := by
  obtain ⟨masks, hmasks⟩ :=
    exists_decision_eq_ok hserves (fun _ hslice => willing.listable hs hslice) h
  obtain ⟨t, hwrite, ht⟩ :=
    willing.writeMasks hs (fitting_decision hserves.limit_le s request masks hmasks)
  refine ⟨masks, t, ?_, ht⟩
  rw [apply_eq_carryOut, hmasks, carryOut_of_accepted (by rw [hwrite]), hwrite]

/-- **Another one is refused for its content, and changes nothing.** -/
theorem apply_of_not_admissible (willing : Willing pool tenants ready)
    (hserves : pool.Serves tenants) (hs : ready s) (h : ¬request.Admissible pool tenants) :
    ∃ e, apply pool tenants s request = (.error e, s) ∧
      (e.kind = .invalidRequest ∨ e.kind = .invalidMask) := by
  obtain ⟨e, he, hkind⟩ :=
    exists_decision_eq_error hserves (fun _ hslice => willing.listable hs hslice) h
  refine ⟨e, ?_, hkind⟩
  rw [apply_eq_carryOut, he]
  rfl

end Allocation

end RanSlicing
