/-
Masks in files over any history of writes.

What a slice's mask reads as is settled by the last write of it that was accepted, cut or padded to
the pool, and by what the directory held at first if there was none.  Refused writes, writes of
other slices and writes of the policies have no part in it, because the records have names of their
own.  `Remembers` is that statement about a journal; one call keeps it (`Remembers.called`), and so
does every run of calls.
-/
import RanSlicing.Proofs.Store.WriteStats

namespace RanSlicing

open Store

/-- The mask that a call is to write, with its slice. -/
def StoreCall.mask? : StoreCall → Option (Nat × Mask)
  | .writeMask slice mask => some (slice, mask)
  | .readMask _ | .readMasks _ | .hasMask _ | .readPolicies | .writePolicies _ => none

/-! ### The writes of a run -/

namespace Store

variable {σ : Type} [Store σ]

/-- What a call brings on record, if nothing is refused, is the mask that it is to write. -/
theorem written_called {s : σ} {call : StoreCall}
    (h : ∀ a ∈ attempts s [call], a.accepted = true) :
    (attempts s [call]).filterMap Attempt.written? = call.mask?.toList := by
  cases call with
  | writeMask slice mask =>
      have haccepted : (Attempt.mask slice mask (writeMask s slice mask).1).accepted = true :=
        h _ List.mem_cons_self
      have hanswer : (writeMask s slice mask).1 = .ok () := by simpa using haccepted
      show [Attempt.mask slice mask (writeMask s slice mask).1].filterMap Attempt.written? = _
      rw [hanswer]
      rfl
  | writePolicies table => rfl
  | readMask _ | readMasks _ | hasMask _ | readPolicies => rfl

/-- Where nothing is refused, the masks that come on record are those that were to be written. -/
theorem written_of_accepted {s : σ} {calls : List StoreCall}
    (h : ∀ a ∈ attempts s calls, a.accepted = true) :
    (attempts s calls).filterMap Attempt.written? = calls.filterMap StoreCall.mask? := by
  induction calls generalizing s with
  | nil => rfl
  | cons call rest ih =>
      rw [attempts_cons] at h ⊢
      obtain ⟨hfirst, hlater⟩ := List.forall_mem_append.1 h
      rw [List.filterMap_append, written_called hfirst, ih hlater, List.filterMap_cons]
      cases call.mask? <;> rfl

end Store

/-! ### Masks in files -/

namespace FileStore

/-- The masks read as the last writes of them that are entered, and where there is none as they did
in the store `s`. -/
structure Remembers (s : FileStore) (j : Journal FileStore) : Prop where
  setUp : SetUp s.layout s.pool s.tenants j.store
  masks : ∀ slice, j.store.readMask slice = (j.written.reverse.lookup slice).elim
    (s.readMask slice) fun mask => .ok (mask.resized s.pool.size)

theorem Remembers.start (s : FileStore) : Remembers s (Journal.start s) :=
  ⟨⟨rfl, rfl, rfl⟩, fun _ => rfl⟩

/-- A mask that comes on record is the last one of its slice. -/
theorem Remembers.mask_accepted {s t : FileStore} {j : Journal FileStore} (h : Remembers s j)
    {slice : Nat} {mask : Mask} (hwrite : j.store.writeMask slice mask = (.ok (), t)) :
    Remembers s ⟨t, j.attempts ++ [.mask slice mask (.ok ())]⟩ := by
  obtain ⟨hlayout, hpool, htenants⟩ := h.setUp
  obtain ⟨files, stats, hfiles, rfl⟩ := store_of_mask_accepted hwrite
  refine ⟨⟨hlayout, hpool, htenants⟩, fun other => ?_⟩
  have hwritten : (j.attempts ++ [Attempt.mask slice mask (.ok ())]).filterMap Attempt.written?
      = j.written ++ [(slice, mask)] := List.filterMap_append
  rw [Journal.written, hwritten, List.reverse_append, List.reverse_singleton,
    List.singleton_append]
  by_cases heq : other = slice
  · subst heq
    rw [readMask_of_replaceText hfiles, hpool, List.lookup_cons_self]
    rfl
  · rw [readMask_of_replaceText_ne hfiles heq, h.masks, SortedMap.lookup_cons_ne heq]

/-- A write that brings no mask on record and leaves the masks as they read. -/
theorem Remembers.other {s t : FileStore} {j : Journal FileStore} (h : Remembers s j) {a : Attempt}
    (ha : a.written? = none) (hsetUp : SetUp s.layout s.pool s.tenants t)
    (hmasks : ∀ slice, t.readMask slice = j.store.readMask slice) :
    Remembers s ⟨t, j.attempts ++ [a]⟩ := by
  refine ⟨hsetUp, fun slice => ?_⟩
  have hwritten : (j.attempts ++ [a]).filterMap Attempt.written? = j.written := by
    rw [List.filterMap_append, List.filterMap_cons_none ha]
    exact List.append_nil _
  rw [Journal.written, hwritten, hmasks, h.masks]

theorem Remembers.refused {s : FileStore} {j : Journal FileStore} (h : Remembers s j)
    {a : Attempt} (ha : a.written? = none) (stats : WriteStats) :
    Remembers s ⟨{ j.store with stats }, j.attempts ++ [a]⟩ :=
  h.other ha ⟨h.setUp.layout, h.setUp.pool, h.setUp.tenants⟩ (sameRecords_stats j.store stats).masks

theorem Remembers.policies_accepted {s t : FileStore} (hapart : s.layout.Apart)
    {j : Journal FileStore} (h : Remembers s j) {table : PolicyTable}
    (hwrite : j.store.writePolicies table = (.ok (), t)) :
    Remembers s ⟨t, j.attempts ++ [.policies table (.ok ())]⟩ := by
  obtain ⟨hlayout, hpool, htenants⟩ := h.setUp
  obtain ⟨record, files, stats, -, hfiles, rfl⟩ := store_of_policies_accepted hwrite
  exact h.other rfl ⟨hlayout, hpool, htenants⟩ fun slice =>
    (masks_of_replaceText (hlayout ▸ hapart) hfiles stats slice).1

/-- **One call keeps what the masks read as.** -/
theorem Remembers.called {s : FileStore} (hapart : s.layout.Apart) {j : Journal FileStore}
    (h : Remembers s j) (call : StoreCall) : Remembers s (Store.called j call) := by
  cases call with
  | writeMask slice mask =>
      show Remembers s ⟨(j.store.writeMask slice mask).2,
        j.attempts ++ [.mask slice mask (j.store.writeMask slice mask).1]⟩
      cases hwrite : j.store.writeMask slice mask with
      | mk answer t =>
          cases answer with
          | ok _ => exact h.mask_accepted hwrite
          | error e =>
              obtain ⟨stats, rfl⟩ := store_of_mask_refused hwrite
              exact h.refused rfl stats
  | writePolicies table =>
      show Remembers s ⟨(j.store.writePolicies table).2,
        j.attempts ++ [.policies table (j.store.writePolicies table).1]⟩
      cases hwrite : j.store.writePolicies table with
      | mk answer t =>
          cases answer with
          | ok _ => exact h.policies_accepted hapart hwrite
          | error e =>
              obtain ⟨stats, rfl⟩ := store_of_policies_refused hwrite
              exact h.refused rfl stats
  | readMask _ | readMasks _ | hasMask _ | readPolicies => exact h

theorem Remembers.afterCalls {s : FileStore} (hapart : s.layout.Apart) (calls : List StoreCall) :
    ∀ {j : Journal FileStore}, Remembers s j → Remembers s (Store.afterCalls j calls) := by
  induction calls with
  | nil => exact fun h => h
  | cons call rest ih => exact fun h => ih (h.called hapart call)

/-- What masks in files read as after some calls. -/
structure RemembersCalls (s : FileStore) (calls : List StoreCall) : Prop where
  /-- A mask reads as the last one that came on record, cut or padded to the pool, and as it did at
  first if none did. -/
  masks : ∀ slice, Store.readMask (Store.afterCalls s calls) slice
    = (((attempts s calls).filterMap Attempt.written?).reverse.lookup slice).elim
      (Store.readMask s slice) fun mask => .ok (mask.resized s.pool.size)
  /-- If no write is refused, the masks that came on record are the ones that were to be written. -/
  accepted : (∀ a ∈ attempts s calls, a.accepted = true) →
    (attempts s calls).filterMap Attempt.written? = calls.filterMap StoreCall.mask?
  /-- Every mask that is read has the width of the pool. -/
  width : ∀ slice mask, Store.readMask (Store.afterCalls s calls) slice = .ok mask →
    mask.width = s.pool.size

/-- **Masks in files survive any history of writes**, from whatever the directory holds. -/
theorem remembers_afterCalls {s : FileStore}
    (hmask : s.layout.maskPrefix = RecordLayout.standard.maskPrefix)
    (hpolicy : s.layout.policyFile = RecordLayout.standard.policyFile) (calls : List StoreCall) :
    s.RemembersCalls calls := by
  have hapart := RecordLayout.apart_of_standard_names hmask hpolicy
  obtain ⟨⟨-, hpool, -⟩, hmasks⟩ := Remembers.afterCalls hapart calls (.start s)
  rw [afterCalls_journal] at hpool hmasks
  refine ⟨hmasks, written_of_accepted, fun slice mask h => ?_⟩
  rw [width_of_readMask h]
  exact congrArg Pool.size hpool

/-- The masks of an uplink over four writes.  Slice 10 gets a mask that is wider than the pool and then
one without units, slice 2 a narrow one; slice 1 has one from before, and slice 0 none. -/
theorem remembers_afterCalls_of_uplink :
    let layout : RecordLayout := { RecordLayout.standard with directory := ⟨"/r"⟩, uplink := true }
    let place : Location := [.text "r", .text "ul_slice_allocation_mask_tenant_1.txt"]
    let tree := (FileTree.empty.put [.text "r"] .directory).put place
      (.file (.text " 011 \nold") 0o644)
    let s : FileStore := ⟨layout, ⟨4, 4⟩, 2, tree, {}⟩
    let calls : List StoreCall :=
      [.writeMask 10 ⟨[true, false, true, false, true]⟩, .writePolicies (.ofList [(10, .waterfilling)]),
        .writeMask 2 ⟨[true, true]⟩, .writeMask 10 (.unassigned 0)]
    layout.maskPrefix = RecordLayout.standard.maskPrefix ∧
      layout.policyFile = RecordLayout.standard.policyFile ∧ s.RemembersCalls calls ∧
      (∀ a ∈ attempts s calls, a.accepted = true) ∧
      [0, 1, 2, 10].map (Store.readMask (Store.afterCalls s calls))
        = [.ok ⟨[false, false, false, false]⟩, .ok ⟨[false, true, true, false]⟩,
          .ok ⟨[true, true, false, false]⟩, .ok ⟨[false, false, false, false]⟩] := by
  intro layout place tree s calls
  exact ⟨rfl, rfl, remembers_afterCalls rfl rfl calls, by decide +kernel, by decide +kernel⟩

end FileStore

end RanSlicing
