/-
Operations in any order keep the partition.

The controller, the operator who moves a slice to a number of units and the operator who splits
the pool evenly act on one store, in any order and as often as they like.  Each operation is
safe from whatever state it starts in, so a run is.
-/
import RanSlicing.Proofs.Control.Heuristic
import RanSlicing.Proofs.Store.Fickle

namespace RanSlicing

open Store

variable {σ : Type} [Store σ]

/-- One operation on the masks of a pool.  The controller may have any bands and any units of
its own, and its writes and those of a move may be refused; a split is one that was carried
out. -/
inductive Operation (pool : Pool) (tenants : Nat) : σ → σ → Prop
  | evaluate (s : σ) (h : Heuristic) (hpool : h.pool = pool) (htenants : h.tenants = tenants)
      (snapshot : Snapshot) : Operation pool tenants s (h.evaluate s snapshot).2.2
  | move (s : σ) (slice target : Nat) :
      Operation pool tenants s (Allocation.adjustSlice pool tenants s slice target).2
  | split {s t : σ} {written : SliceMap Mask}
      (h : Allocation.applyEqual pool tenants s = (.ok written, t)) : Operation pool tenants s t

/-- Operations one after the other. -/
inductive Operations (pool : Pool) (tenants : Nat) : σ → σ → Prop
  | none (s : σ) : Operations pool tenants s s
  | more {s t u : σ} (before : Operations pool tenants s t) (last : Operation pool tenants t u) :
      Operations pool tenants s u

theorem Operation.safe {sound : σ → Prop} {fits : Nat → Prop} (laws : Laws sound fits)
    {pool : Pool} (hlimit : pool.limit ≤ pool.size) (hfits : fits pool.size) {tenants : Nat}
    {s t : σ} (h : Operation pool tenants s t) (hs : sound s) :
    sound t ∧ Safe pool tenants s t := by
  cases h with
  | evaluate h hpool htenants snapshot =>
      have := Heuristic.evaluate_safe laws h hs snapshot
      rwa [hpool, htenants] at this
  | move slice target => exact Allocation.adjustSlice_safe laws hlimit hs slice target
  | split h => exact Allocation.applyEqual_safe laws hlimit hfits hs h

theorem Operations.safe {sound : σ → Prop} {fits : Nat → Prop} (laws : Laws sound fits)
    {pool : Pool} (hlimit : pool.limit ≤ pool.size) (hfits : fits pool.size) {tenants : Nat}
    {s t : σ} (h : Operations pool tenants s t) (hs : sound s) :
    sound t ∧ Safe pool tenants s t := by
  induction h with
  | none => exact ⟨hs, .refl s⟩
  | more _ last ih =>
      obtain ⟨hsound, hsafe⟩ := ih
      obtain ⟨hsound', hsafe'⟩ := last.safe laws hlimit hfits hsound
      exact ⟨hsound', hsafe.trans hsafe'⟩

/-- **The masks stay a partition through every run of operations.**  Masks that could be read
can be read afterwards, no unit is held by two slices, and a unit beyond the limit is held only
by a slice that held it from the start. -/
theorem partitioned_of_operations {pool : Pool} (hpool : pool.validate = .ok ()) {tenants : Nat}
    {s t : σ} (hs : Faithful pool.size s) (hpartition : Partitioned tenants s)
    (h : Operations pool tenants s t) :
    Partitioned tenants t ∧ (∀ slice, Readable s slice → Readable t slice) ∧
      ∀ slice unit, pool.limit ≤ unit → Holds t slice unit → Holds s slice unit := by
  obtain ⟨sound, fits, laws, hfits, hsound⟩ := hs
  obtain ⟨-, hsafe⟩ := h.safe laws (Pool.limit_le_size hpool) hfits hsound
  exact ⟨hsafe.partitioned hpartition, hsafe.readable, hsafe.capped⟩

/-- Three slices of a pool of eight units, one of which cannot be claimed and is held from the start.
Slice 0 is moved to one unit, a round lets it claim another while the release of slice 1 is refused,
and slice 1 asks for more units than there are. -/
theorem partitioned_of_moves_around_a_round :
    let pool : Pool := ⟨8, 7⟩
    let start : MemoryStore := { MemoryStore.empty 8 with
      masks := .ofList [(1, ⟨[false, false, false, false, false, true, false, false]⟩),
        (2, ⟨[true, false, false, false, false, false, false, true]⟩)] }
    let s : Fickle MemoryStore := ⟨start, [false, false, true]⟩
    let snapshot : Snapshot := .ofList [(0, ⟨1, .ofList [("dl_buffer [bytes]", 2500.0)]⟩),
      (1, ⟨1, .ofList [("tx_brate downlink [Mbps]", 0.125)]⟩)]
    let h : Heuristic := .ofSettings pool 3 .standard
    let moved := (Allocation.adjustSlice pool 3 s 0 1).2
    let report := (h.evaluate moved snapshot).1
    let t := (Allocation.adjustSlice pool 3 (h.evaluate moved snapshot).2.2 1 9).2
    pool.validate = .ok () ∧ Faithful 8 s ∧ Partitioned 3 s ∧ report.masksWritten = [0] ∧
      report.incidents = [.store (.writingMask 1) .maskRejected] ∧
      readMasks t 3 = .ok [⟨[false, true, true, false, false, false, false, false]⟩,
        ⟨[false, false, false, true, true, true, true, false]⟩,
        ⟨[true, false, false, false, false, false, false, true]⟩] ∧
      Partitioned 3 t ∧ (∀ slice, Readable s slice → Readable t slice) ∧
      ∀ slice unit, 7 ≤ unit → Holds t slice unit → Holds s slice unit := by
  intro pool start s snapshot h moved report t
  have hpool : pool.validate = .ok () := rfl
  have hfaithful : Faithful 8 s :=
    ⟨_, _, MemoryStore.laws.fickle, trivial, trivial⟩
  -- What the script refuses later does not matter to what the slices hold now.
  have hpartition : Partitioned 3 s := show Partitioned 3 start by decide +kernel
  have hrun : Operations pool 3 s t :=
    .more (.more (.more (.none s) (.move s 0 1)) (.evaluate _ h rfl rfl snapshot)) (.move _ 1 9)
  exact ⟨hpool, hfaithful, hpartition, by decide +kernel, by decide +kernel, by decide +kernel,
    partitioned_of_operations hpool hfaithful hpartition hrun⟩

end RanSlicing
