/-
Two stores that no operation can tell apart.

A dry run is worth something only if it decides what the real run would decide.  The two keep
their records in different ways, so what is compared is not their states but what they answer:
`Lockstep` asks of a relation between two stores that related stores read the same masks, and that
equal writes are answered equally and lead to related stores again.  Every operation reaches the
stores through these calls alone, so it answers the same on related stores (`Alike`).

The policies are the one record of which the stores may give different accounts: one of them may
list a slice that the other one leaves out.  What has to agree is the policy in force, so tables
have a relation of their own, which setting a policy keeps.
-/
import RanSlicing.Proofs.Allocation.Ranges

namespace RanSlicing

open Store

variable {σ τ α : Type}

/-- Two operations give the same answer and leave related stores behind. -/
def Alike (R : σ → τ → Prop) (x : α × σ) (y : α × τ) : Prop := x.1 = y.1 ∧ R x.2 y.2

theorem Alike.exists_eq {R : σ → τ → Prop} {x : α × σ} {y : α × τ} (h : Alike R x y) :
    ∃ answer s t, x = (answer, s) ∧ y = (answer, t) ∧ R s t :=
  ⟨x.1, x.2, y.2, rfl, Prod.ext h.1.symm rfl, h.2⟩

variable [Store σ] [Store τ]

/-- A relation between stores that every call keeps, for masks of a pool and the slices below
`tenants`, and one between the tables of policies that they read and write. -/
structure Lockstep (pool : Pool) (tenants : Nat) (R : σ → τ → Prop)
    (T : PolicyTable → PolicyTable → Prop) : Prop where
  readMask : ∀ {s t}, R s t → ∀ slice < tenants, ∃ mask, Store.readMask s slice = .ok mask ∧
    Store.readMask t slice = .ok mask ∧ mask.width = pool.size
  hasMask? : ∀ {s t}, R s t → ∀ slice, Store.hasMask? t slice = Store.hasMask? s slice
  writeMask : ∀ {s t}, R s t → ∀ slice < tenants, ∀ mask : Mask, mask.width = pool.size →
    Alike R (Store.writeMask s slice mask) (Store.writeMask t slice mask)
  readPolicies : ∀ {s t}, R s t → ∃ p q, Store.readPolicies s = .ok p ∧
    Store.readPolicies t = .ok q ∧ T p q
  writePolicies : ∀ {s t}, R s t → ∀ {p q}, T p q →
    Alike R (Store.writePolicies s p) (Store.writePolicies t q)
  inForce : ∀ {p q}, T p q → ∀ slice < tenants, q.inForce slice = p.inForce slice
  insert : ∀ {p q}, T p q → ∀ slice < tenants, ∀ policy,
    T (p.insert slice policy) (q.insert slice policy)

namespace Lockstep

variable {pool : Pool} {tenants : Nat} {R : σ → τ → Prop}
  {T : PolicyTable → PolicyTable → Prop} {s : σ} {t : τ}

/-! ### Reading all masks -/

theorem readMasks_eq (h : Lockstep pool tenants R T) (hst : R s t) :
    ∃ masks, readMasks s tenants = .ok masks ∧ readMasks t tenants = .ok masks ∧
      masks.length = tenants ∧ ∀ mask ∈ masks, mask.width = pool.size := by
  have hboth : ∀ slices : List Nat, (∀ slice ∈ slices, slice < tenants) →
      ∃ masks, slices.mapM (Store.readMask s) = .ok masks ∧
        slices.mapM (Store.readMask t) = .ok masks ∧ masks.length = slices.length ∧
          ∀ mask ∈ masks, mask.width = pool.size := by
    intro slices
    induction slices with
    | nil => intro _; exact ⟨[], rfl, rfl, rfl, fun _ hmask => absurd hmask List.not_mem_nil⟩
    | cons slice rest ih =>
        intro hslices
        obtain ⟨hslice, hrest⟩ := List.forall_mem_cons.1 hslices
        obtain ⟨mask, hs, ht, hwidth⟩ := h.readMask hst slice hslice
        obtain ⟨masks, hs', ht', hlength, hwidths⟩ := ih hrest
        refine ⟨mask :: masks, ?_, ?_, by simp [hlength],
          List.forall_mem_cons.2 ⟨hwidth, hwidths⟩⟩
        · rw [List.mapM_cons, hs, hs']
          rfl
        · rw [List.mapM_cons, ht, ht']
          rfl
  obtain ⟨masks, hs, ht, hlength, hwidths⟩ :=
    hboth (List.range tenants) fun slice hslice => List.mem_range.1 hslice
  exact ⟨masks, hs, ht, by rw [hlength, List.length_range], hwidths⟩

theorem hasMask_eq (h : Lockstep pool tenants R T) (hst : R s t) (slice : Nat) :
    Store.hasMask t slice = Store.hasMask s slice := by
  rw [Store.hasMask, Store.hasMask, h.hasMask? hst]

theorem recordedMasks_eq (h : Lockstep pool tenants R T) (hst : R s t) :
    recordedMasks t tenants = recordedMasks s tenants := by
  refine foldlM_congr (fun slice hslice m => ?_) SortedMap.empty
  obtain ⟨mask, hs, ht, -⟩ := h.readMask hst slice (List.mem_range.1 hslice)
  rw [addRecorded, addRecorded, h.hasMask? hst, hs, ht]

/-! ### Writing masks -/

theorem writeMasks_alike (h : Lockstep pool tenants R T) {entries : List (Nat × Mask)}
    (hentries : Allocation.Fitting pool tenants entries) (hst : R s t) :
    Alike R (writeMasks s entries) (writeMasks t entries) := by
  induction entries generalizing s t with
  | nil => exact ⟨rfl, hst⟩
  | cons e rest ih =>
      obtain ⟨⟨hslice, hwidth⟩, hrest⟩ := List.forall_mem_cons.1 hentries
      obtain ⟨answer, s', t', hs, ht, hstores⟩ :=
        (h.writeMask hst e.1 hslice e.2 hwidth).exists_eq
      simp only [writeMasks, hs, ht]
      cases answer with
      | error e => exact ⟨rfl, hstores⟩
      | ok u => exact ih hrest hstores

theorem carryOut_alike (h : Lockstep pool tenants R T) {decided : Except Fault (SliceMap Mask)}
    (hdecided : ∀ masks, decided = .ok masks → Allocation.Fitting pool tenants masks.entries)
    (hst : R s t) :
    Alike R (Allocation.carryOut s decided) (Allocation.carryOut t decided) := by
  cases decided with
  | error e => exact ⟨rfl, hst⟩
  | ok masks =>
      obtain ⟨answer, s', t', hs, ht, hstores⟩ :=
        (h.writeMasks_alike (hdecided masks rfl) hst).exists_eq
      simp only [Allocation.carryOut, hs, ht]
      cases answer with
      | error e => exact ⟨rfl, hstores⟩
      | ok u => exact ⟨rfl, hstores⟩

/-! ### Requests -/

theorem applyRanges_alike (h : Lockstep pool tenants R T) (hlimit : pool.limit ≤ pool.size)
    (requested : SliceMap Range) (hst : R s t) :
    Alike R (Allocation.applyRanges pool tenants requested s)
      (Allocation.applyRanges pool tenants requested t) := by
  unfold Allocation.applyRanges
  rw [h.recordedMasks_eq hst]
  exact h.carryOut_alike (Allocation.fitting_ranges hlimit requested s) hst

theorem applyFull_alike (h : Lockstep pool tenants R T) (slice : Nat) (mask : Mask)
    (hst : R s t) :
    Alike R (Allocation.applyFull pool tenants slice mask s)
      (Allocation.applyFull pool tenants slice mask t) := by
  unfold Allocation.applyFull
  by_cases hslice : tenants ≤ slice
  · rw [if_pos hslice, if_pos hslice]
    exact ⟨rfl, hst⟩
  · rw [if_neg hslice, if_neg hslice]
    by_cases hwidth : mask.width = pool.size
    · rw [if_neg (not_not.2 hwidth), if_neg (not_not.2 hwidth)]
      exact h.writeMask hst slice (Nat.lt_of_not_le hslice) mask hwidth
    · rw [if_pos hwidth, if_pos hwidth]
      exact ⟨rfl, hst⟩

/-- **A request is answered alike.** -/
theorem apply_alike (h : Lockstep pool tenants R T) (hlimit : pool.limit ≤ pool.size)
    (request : Request) (hst : R s t) :
    Alike R (Allocation.apply pool tenants s request)
      (Allocation.apply pool tenants t request) := by
  cases request with
  | equal => exact h.carryOut_alike (fun _ hmasks => Allocation.fitting_equal hlimit hmasks) hst
  | ranges requested => exact h.applyRanges_alike hlimit requested hst
  | full slice mask =>
      obtain ⟨answer, s', t', hs, ht, hstores⟩ := (h.applyFull_alike slice mask hst).exists_eq
      simp only [Allocation.apply, hs, ht]
      cases answer with
      | error e => exact ⟨rfl, hstores⟩
      | ok u => exact ⟨rfl, hstores⟩

/-- **A move to a number of units is answered alike.** -/
theorem adjustSlice_alike (h : Lockstep pool tenants R T) (slice target : Nat) (hst : R s t) :
    Alike R (Allocation.adjustSlice pool tenants s slice target)
      (Allocation.adjustSlice pool tenants t slice target) := by
  unfold Allocation.adjustSlice
  by_cases hslice : tenants ≤ slice
  · rw [if_pos hslice, if_pos hslice]
    exact ⟨rfl, hst⟩
  · obtain ⟨masks, hs, ht, hlength, hwidths⟩ := h.readMasks_eq hst
    rw [if_neg hslice, if_neg hslice]
    simp only [hs, ht]
    have hlt : slice < masks.length := by omega
    have hwidth : ((masks.getD slice pool.emptyMask).adjust
        (Allocation.occupied pool masks) target pool).mask.width = pool.size := by
      rw [Mask.width_adjust, List.getD_eq_getElem?_getD, List.getElem?_eq_getElem hlt]
      exact hwidths _ (List.getElem_mem hlt)
    generalize (masks.getD slice pool.emptyMask).adjust
      (Allocation.occupied pool masks) target pool = adjustment at hwidth ⊢
    split
    · obtain ⟨answer, s', t', hs, ht, hstores⟩ :=
        (h.writeMask hst slice (Nat.lt_of_not_le hslice) adjustment.mask hwidth).exists_eq
      simp only [hs, ht]
      cases answer with
      | error e => exact ⟨rfl, hstores⟩
      | ok u => exact ⟨rfl, hstores⟩
    · exact ⟨rfl, hst⟩

end Lockstep

end RanSlicing
