/-
A store in memory keeps the laws.

Every state is sound and every mask fits, because a mask comes back from memory as it went in.
-/
import RanSlicing.Proofs.Store.Laws
import RanSlicing.Store.Memory

namespace RanSlicing.MemoryStore

open Store

theorem readMask_eq (s : MemoryStore) (slice : Nat) :
    Store.readMask s slice = .ok ((s.masks.get? slice).getD (.unassigned s.width)) := rfl

theorem hasMask?_eq (s : MemoryStore) (slice : Nat) :
    Store.hasMask? s slice = .ok (s.masks.get? slice).isSome := rfl

theorem sameRecords_countFailure (s : MemoryStore) : SameRecords s s.countFailure :=
  ⟨fun _ => rfl, fun _ => rfl, rfl⟩

theorem masksWritten_insert (s : MemoryStore) (slice : Nat) (mask : Mask) (stats : WriteStats) :
    MasksWritten s { s with masks := s.masks.insert slice mask, stats } [(slice, mask)] := by
  refine ⟨fun other => ?_, fun other => ?_, rfl⟩
  · rw [readMask_eq]
    by_cases h : other = slice
    · subst h
      rw [SortedMap.get?_insert_self, List.lookup_cons_self]
      rfl
    · rw [SortedMap.get?_insert_ne _ _ h, SortedMap.lookup_cons_ne h]
      rfl
  · rw [hasMask?_eq]
    by_cases h : other = slice
    · subst h
      rw [SortedMap.get?_insert_self, List.lookup_cons_self]
      rfl
    · rw [SortedMap.get?_insert_ne _ _ h, SortedMap.lookup_cons_ne h]
      rfl

theorem laws : Laws (σ := MemoryStore) (fun _ => True) (fun _ => True) where
  width_of_readMask _ _ := trivial
  unassigned_of_not_hasMask := by
    intro s slice mask _ hnone hread unit
    rw [hasMask?_eq, Except.ok.injEq, Option.isSome_eq_false_iff, Option.isNone_iff_eq_none] at hnone
    rw [readMask_eq, hnone] at hread
    cases hread
    exact Mask.isSet_unassigned s.width unit
  mask_accepted := by
    intro s t slice mask _ _ h
    simp only [Store.writeMask, writeMask] at h
    split at h
    · simp at h
    · cases h
      exact ⟨trivial, masksWritten_insert s slice mask _⟩
  mask_refused := by
    intro s t slice mask e _ h
    simp only [Store.writeMask, writeMask] at h
    split at h
    · cases h
      exact ⟨trivial, sameRecords_countFailure s⟩
    · simp at h
  policies_accepted := by
    intro s t policies _ h
    simp only [Store.writePolicies, writePolicies] at h
    split at h
    · simp at h
    · cases h
      exact ⟨trivial, fun _ => rfl, fun _ => rfl, fun _ _ _ => rfl⟩
  policies_refused := by
    intro s t policies e _ h
    simp only [Store.writePolicies, writePolicies] at h
    split at h
    · cases h
      exact ⟨trivial, sameRecords_countFailure s⟩
    · simp at h

/-- **A store in memory is faithful**, whatever it holds and whether or not it rejects writes. -/
theorem faithful (width : Nat) (s : MemoryStore) : Faithful width s :=
  ⟨_, _, laws, trivial, trivial⟩

/-! ### A store that does not reject writes -/

theorem writeMask_of_not_rejecting {s : MemoryStore} (h : s.rejecting = false) (slice : Nat)
    (mask : Mask) :
    ∃ stats, Store.writeMask s slice mask
      = (.ok (), { s with masks := s.masks.insert slice mask, stats }) := by
  show ∃ stats, MemoryStore.writeMask s slice mask = _
  rw [writeMask, h]
  exact ⟨_, rfl⟩

theorem writePolicies_of_not_rejecting {s : MemoryStore} (h : s.rejecting = false)
    (policies : PolicyTable) :
    ∃ stats, Store.writePolicies s policies
      = (.ok (), { s with policies := some policies, stats }) := by
  show ∃ stats, MemoryStore.writePolicies s policies = _
  rw [writePolicies, h]
  exact ⟨_, rfl⟩

theorem writeMasks_of_not_rejecting {s : MemoryStore} (h : s.rejecting = false)
    (entries : List (Nat × Mask)) :
    (writeMasks s entries).1 = .ok () ∧ (writeMasks s entries).2.rejecting = false := by
  induction entries generalizing s with
  | nil => exact ⟨rfl, h⟩
  | cons e rest ih =>
      obtain ⟨stats, hwrite⟩ := writeMask_of_not_rejecting h e.1 e.2
      simp only [writeMasks, hwrite]
      exact ih h

end RanSlicing.MemoryStore
