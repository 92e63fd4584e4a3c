/-
What a request leaves behind that failed.

All a request asks for is decided before the first write (`decision`), so one that is refused for
its content changes nothing.  From then on its masks are written one by one, and nothing is taken
back: the first write that is refused leaves the masks before it on record.  That the fault may be
gone when the same is tried again does not tell the two apart.  The records read as they did before
exactly if the masks that were written are the ones that were there already (`reads_same_iff`).
-/
import RanSlicing.Proofs.Allocation.Ranges
import RanSlicing.Proofs.Store.Files
import RanSlicing.Proofs.Store.Journal

namespace RanSlicing.Allocation

open Store

variable {σ : Type} [Store σ] {pool : Pool} {tenants : Nat}

/-! ### Deciding and writing -/

/-- The masks that a request asks for. -/
def decision (pool : Pool) (tenants : Nat) (s : σ) : Request → Except Fault (SliceMap Mask)
  | .equal => equal pool tenants
  | .ranges requested => (recordedMasks s tenants).bind (ranges requested pool tenants)
  | .full slice mask =>
    if tenants ≤ slice then .error (.sliceNotConfigured slice tenants)
    else if mask.width ≠ pool.size then .error (.maskWidth mask.text mask.width pool.size)
    else .ok (SortedMap.ofList [(slice, mask)])

theorem apply_eq_carryOut (pool : Pool) (tenants : Nat) (s : σ) (request : Request) :
    apply pool tenants s request = carryOut s (decision pool tenants s request) := by
  cases request with
  | equal => rfl
  | ranges requested => rfl
  | full slice mask =>
      simp only [apply, applyFull, decision]
      by_cases hslice : tenants ≤ slice
      · simp only [if_pos hslice, carryOut]
      · by_cases hwidth : mask.width ≠ pool.size
        · simp only [if_neg hslice, if_pos hwidth, carryOut]
        · have hentries : (SortedMap.ofList [(slice, mask)]).entries = [(slice, mask)] :=
            SortedMap.entries_ofList (by simp)
          simp only [if_neg hslice, if_neg hwidth, carryOut_ok, hentries, writeMasks]
          cases writeMask s slice mask with
          | mk answer t => cases answer <;> rfl

theorem fitting_decision (hlimit : pool.limit ≤ pool.size) (s : σ) (request : Request)
    (masks : SliceMap Mask) (h : decision pool tenants s request = .ok masks) :
    Fitting pool tenants masks.entries := by
  cases request with
  | equal => exact fitting_equal hlimit h
  | ranges requested => exact fitting_ranges hlimit requested s masks h
  | full slice mask =>
      simp only [decision] at h
      split at h
      · simp at h
      · split at h
        · simp at h
        · rename_i hslice hwidth
          obtain rfl := Except.ok.inj h
          rw [SortedMap.entries_ofList (by simp)]
          simp only [Fitting, List.mem_singleton, forall_eq]
          exact ⟨by omega, by simpa using hwidth⟩

/-! ### Watched by a journal -/

theorem forget_carryOut (j : Journal σ) (decided : Except Fault (SliceMap Mask)) :
    Journal.forget (carryOut j decided) = carryOut j.store decided := by
  cases decided with
  | error e => rfl
  | ok masks =>
      rw [carryOut_ok, carryOut_ok, ← Journal.forget_writeMasks]
      rfl

theorem decision_journal (j : Journal σ) (request : Request) :
    decision pool tenants j request = decision pool tenants j.store request := by
  cases request <;> rfl

theorem forget_apply (pool : Pool) (tenants : Nat) (j : Journal σ) (request : Request) :
    Journal.forget (apply pool tenants j request) = apply pool tenants j.store request := by
  rw [apply_eq_carryOut, apply_eq_carryOut, forget_carryOut, decision_journal]

/-- The masks that come on record when a request is carried out, in order. -/
def writtenBy (pool : Pool) (tenants : Nat) (s : σ) (request : Request) : List (Nat × Mask) :=
  (apply pool tenants (Journal.start s) request).2.written

theorem writtenBy_eq (s : σ) (request : Request) :
    writtenBy pool tenants s request =
      (carryOut (Journal.start s) (decision pool tenants s request)).2.written := by
  rw [writtenBy, apply_eq_carryOut, decision_journal]
  rfl

theorem writtenBy_of_decision_eq_error {s : σ} {request : Request} {e : Fault}
    (h : decision pool tenants s request = .error e) : writtenBy pool tenants s request = [] := by
  rw [writtenBy_eq, h]
  rfl

/-- What was decided is written up to the first refusal. -/
theorem writtenBy_of_decision_eq_ok {sound : σ → Prop} {fits : Nat → Prop}
    (laws : Laws sound fits) (hlimit : pool.limit ≤ pool.size) (hfits : fits pool.size) {s t : σ}
    (hs : sound s) {request : Request} {masks : SliceMap Mask}
    (hdecision : decision pool tenants s request = .ok masks) {e : Fault}
    (h : apply pool tenants s request = (.error e, t)) :
    MasksWritten s t (writtenBy pool tenants s request) ∧
      ∃ k < masks.entries.length, writtenBy pool tenants s request = masks.entries.take k := by
  have hfit : ∀ entry ∈ masks.entries, fits entry.2.width := by
    intro entry hentry
    rw [(fitting_decision hlimit s request masks hdecision entry hentry).2]
    exact hfits
  obtain ⟨attempts, hall, htried, hwritten⟩ :=
    laws.tried_writeMasks (j := Journal.start s) masks.ascending hfit hs
  have hentered : writtenBy pool tenants s request = attempts.filterMap Attempt.written? := by
    rw [writtenBy_eq, hdecision, carryOut_ok]
    exact congrArg (List.filterMap Attempt.written?) hall
  have houtcome : apply pool tenants s request =
      Journal.forget (carryOut (Journal.start s) (.ok masks)) := by
    rw [forget_carryOut, apply_eq_carryOut, hdecision]
    rfl
  rw [h, carryOut_ok, Journal.forget_mk, Prod.mk.injEq] at houtcome
  obtain ⟨hanswer, rfl⟩ := houtcome
  rw [hentered]
  obtain ⟨k, htake, hk⟩ := htried.written_eq
  refine ⟨hwritten, k, ?_, htake⟩
  rcases hk with ⟨hok, -⟩ | ⟨-, hlt⟩
  · rw [hok] at hanswer
    cases hanswer
  · exact hlt

/-! ### After a failure -/

/-- Masks of different slices leave every record as it reads exactly if they were there. -/
theorem reads_same_iff {s t : σ} {entries : List (Nat × Mask)} (h : MasksWritten s t entries)
    (hentries : entries.Pairwise fun a b => compare a.1 b.1 = .lt) :
    ((∀ slice, readMask t slice = readMask s slice) ∧ readPolicies t = readPolicies s) ↔
      ∀ entry ∈ entries, readMask s entry.1 = .ok entry.2 := by
  constructor
  · rintro ⟨hsame, -⟩ ⟨slice, mask⟩ hmem
    have hnew := h.masks slice
    rw [SortedMap.lookup_of_mem hentries hmem] at hnew
    exact (hsame slice).symm.trans hnew
  · intro hthere
    refine ⟨fun slice => ?_, h.policies⟩
    rw [h.masks]
    cases hlookup : entries.lookup slice with
    | none => rfl
    | some mask => exact (hthere (slice, mask) (SortedMap.mem_of_lookup hlookup)).symm

/-- **What a request that failed leaves behind.**  If it was refused for its content, nothing
changed.  If a write was refused, the masks before that one are on record and no other record is
touched.  Either way the records read as before exactly if each mask that was written was there
already. -/
theorem records_of_apply_eq_error (hpool : pool.validate = .ok ()) {s t : σ}
    (hs : Faithful pool.size s) {request : Request} {e : Fault}
    (h : apply pool tenants s request = (.error e, t)) :
    MasksWritten s t (writtenBy pool tenants s request) ∧
      (decision pool tenants s request = .error e ∧ writtenBy pool tenants s request = [] ∨
        ∃ masks, decision pool tenants s request = .ok masks ∧
          ∃ k < masks.entries.length,
            writtenBy pool tenants s request = masks.entries.take k) ∧
      (((∀ slice, readMask t slice = readMask s slice) ∧ readPolicies t = readPolicies s) ↔
        ∀ entry ∈ writtenBy pool tenants s request, readMask s entry.1 = .ok entry.2) := by
  obtain ⟨sound, fits, laws, hfits, hsound⟩ := hs
  cases hdecision : decision pool tenants s request with
  | error e' =>
      have houtcome := apply_eq_carryOut pool tenants s request
      rw [h, hdecision] at houtcome
      cases houtcome
      rw [writtenBy_of_decision_eq_error hdecision]
      exact ⟨.refl s, .inl ⟨rfl, rfl⟩, reads_same_iff (.refl s) .nil⟩
  | ok masks =>
      obtain ⟨hwritten, k, hk, htake⟩ := writtenBy_of_decision_eq_ok laws (Pool.limit_le_size hpool)
        hfits hsound hdecision h
      refine ⟨hwritten, .inr ⟨masks, rfl, k, hk, htake⟩, reads_same_iff hwritten ?_⟩
      rw [htake]
      exact masks.ascending.sublist (List.take_sublist k _)

/-- Slice 1 has a directory where its mask should be.  Slice 0 is written first, but with the mask
that it had, so nothing is lost. -/
theorem reads_same_of_repeated_range :
    let tree := ((FileTree.empty.put [.text "r"] .directory).put
      [.text "r", .text "slice_allocation_mask_tenant_0.txt"] (.file (.text "1000\n") 0o644)).put
      [.text "r", .text "slice_allocation_mask_tenant_1.txt"] .directory
    let pool : Pool := .full 4
    let s : FileStore := ⟨{ RecordLayout.standard with directory := ⟨"/r"⟩ }, pool, 2, tree, {}⟩
    let request : Request := .ranges (.ofList [(0, ⟨0, 0⟩), (1, ⟨1, 3⟩)])
    let e : Fault := .unwritable ⟨"/r/slice_allocation_mask_tenant_1.txt"⟩ .isDirectory
    let t := (apply pool 2 s request).2
    pool.validate = .ok () ∧ Faithful 4 s ∧ apply pool 2 s request = (.error e, t) ∧
      writtenBy pool 2 s request = [(0, ⟨[true, false, false, false]⟩)] ∧
      (∀ slice, readMask t slice = readMask s slice) ∧ readPolicies t = readPolicies s := by
  intro tree pool s request e t
  have hpool : pool.validate = .ok () := rfl
  have hfaithful : Faithful 4 s :=
    FileStore.faithful (s := s) (RecordLayout.apart_of_standard_names rfl rfl) (by decide)
  have happly : apply pool 2 s request = (.error e, t) := by decide +kernel
  have hwritten : writtenBy pool 2 s request = [(0, ⟨[true, false, false, false]⟩)] := by
    decide +kernel
  obtain ⟨-, -, hsame⟩ := records_of_apply_eq_error hpool hfaithful happly
  rw [hwritten] at hsame
  exact ⟨hpool, hfaithful, happly, hwritten, hsame.2 (by decide +kernel)⟩

/-- An even split of the same cell answers with a fault that may be gone the next time, and slice 0
has another mask than before. -/
theorem torn_even_split :
    let tree := ((FileTree.empty.put [.text "r"] .directory).put
      [.text "r", .text "slice_allocation_mask_tenant_0.txt"] (.file (.text "1000\n") 0o644)).put
      [.text "r", .text "slice_allocation_mask_tenant_1.txt"] .directory
    let pool : Pool := .full 4
    let s : FileStore := ⟨{ RecordLayout.standard with directory := ⟨"/r"⟩ }, pool, 2, tree, {}⟩
    let e : Fault := .unwritable ⟨"/r/slice_allocation_mask_tenant_1.txt"⟩ .isDirectory
    let t := (apply pool 2 s .equal).2
    pool.validate = .ok () ∧ Faithful 4 s ∧ apply pool 2 s .equal = (.error e, t) ∧
      e.isTransient = true ∧ readMask s 0 = .ok ⟨[true, false, false, false]⟩ ∧
      readMask t 0 = .ok ⟨[true, true, false, false]⟩ := by
  intro tree pool s e t
  have hfaithful : Faithful 4 s :=
    FileStore.faithful (s := s) (RecordLayout.apart_of_standard_names rfl rfl) (by decide)
  exact ⟨rfl, hfaithful, by decide +kernel⟩

end RanSlicing.Allocation
