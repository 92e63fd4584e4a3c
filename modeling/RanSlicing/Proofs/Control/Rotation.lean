/-
A cycle of allocations and the partition.

A round either carries its allocation out, or leaves the store as it is, as long as no write is
refused; what reading or the request itself refuses happens before the first write.  So the
partition can only be lost in a round that is carried out, and there exactly by a clash
(`partitioned_step_iff`).  A cycle that names every slice each time never clashes, whatever the
store held at the start.
-/
import RanSlicing.Control.Rotation
import RanSlicing.Proofs.Allocation.Ranges
import RanSlicing.Proofs.Store.Memory

namespace RanSlicing

open Store

variable {σ : Type} [Store σ] {sound : σ → Prop} {fits : Nat → Prop}

namespace Rotation

/-- The cycle and the store after some rounds. -/
def after (c : Rotation) (s : σ) : Nat → Rotation × σ
  | 0 => (c, s)
  | n + 1 => ((after c s n).1.step (after c s n).2).2

/-- The masks that the next round decides on, if there is a round that decides on masks. -/
def Decides (c : Rotation) (s : σ) (masks : SliceMap Mask) : Prop :=
  ∃ requested, c.allocations[c.next]? = some requested ∧
    (recordedMasks s c.tenants).bind (Allocation.ranges requested c.pool c.tenants) = .ok masks

/-- No write of the next round is refused. -/
def Unrefused (c : Rotation) (s : σ) : Prop :=
  ∀ masks, Decides c s masks → (writeMasks s masks.entries).1 = .ok ()

/-- The next round carries out an allocation that clashes with what a slice keeps. -/
def Clashes (c : Rotation) (s : σ) : Prop :=
  (∃ masks, Decides c s masks) ∧
    ∃ requested, c.allocations[c.next]? = some requested ∧
      Allocation.Clash c.pool c.tenants requested s

/-- The cycle moves on by one allocation, and from the last one to the first. -/
theorem next_advance {c : Rotation} (h : c.next < c.allocations.length) :
    c.advance.next = (c.next + 1) % c.allocations.length := by
  unfold advance
  by_cases hinside : c.next + 1 < c.allocations.length
  · rw [if_pos hinside, Nat.mod_eq_of_lt hinside]
  · have hlast : c.next + 1 = c.allocations.length := by omega
    rw [if_neg hinside, hlast, Nat.mod_self]

/-- The cycle goes on whatever becomes of the allocation. -/
theorem step_snd (c : Rotation) (s : σ) :
    (c.step s).2 = (c.advance, match c.allocations[c.next]? with
      | none => s
      | some requested => (Allocation.applyRanges c.pool c.tenants requested s).2) := by
  unfold step tryStep
  cases c.allocations[c.next]? with
  | none => rfl
  | some requested =>
      cases happly : Allocation.applyRanges c.pool c.tenants requested s with
      | mk answer t =>
          cases answer with
          | ok written => simp only [happly]
          | error e => simp only [happly]

theorem cycle_step (c : Rotation) (s : σ) : (c.step s).2.1 = c.advance := by
  rw [step_snd]

theorem store_step (c : Rotation) (s : σ) :
    (c.step s).2.2 = match c.allocations[c.next]? with
      | none => s
      | some requested => (Allocation.applyRanges c.pool c.tenants requested s).2 := by
  rw [step_snd]

/-- A round carries its allocation out, or decides on nothing and changes nothing. -/
theorem step_cases {c : Rotation} {s : σ} (h : c.Unrefused s) :
    (∃ requested masks, c.allocations[c.next]? = some requested ∧ Decides c s masks ∧
        Allocation.applyRanges c.pool c.tenants requested s = (.ok masks, (c.step s).2.2)) ∨
      ((c.step s).2.2 = s ∧ ∀ masks, ¬Decides c s masks) := by
  cases hnext : c.allocations[c.next]? with
  | none =>
      refine .inr ⟨by rw [store_step, hnext], ?_⟩
      rintro masks ⟨requested, hsome, -⟩
      rw [hnext] at hsome
      simp at hsome
  | some requested =>
      have hstore : (c.step s).2.2 = (Allocation.applyRanges c.pool c.tenants requested s).2 := by
        rw [store_step, hnext]
      cases hmasks : (recordedMasks s c.tenants).bind
          (Allocation.ranges requested c.pool c.tenants) with
      | error e =>
          rw [Allocation.applyRanges, hmasks] at hstore
          refine .inr ⟨hstore, ?_⟩
          rintro masks ⟨requested', hsome, hmasks'⟩
          rw [hnext] at hsome
          obtain rfl := Option.some.inj hsome
          rw [hmasks] at hmasks'
          simp at hmasks'
      | ok masks =>
          have hdecides : Decides c s masks := ⟨requested, hnext, hmasks⟩
          have happly : Allocation.applyRanges c.pool c.tenants requested s
              = (.ok masks, (writeMasks s masks.entries).2) := by
            rw [Allocation.applyRanges, hmasks]
            exact Allocation.carryOut_of_accepted (h masks hdecides)
          rw [happly] at hstore
          exact .inl ⟨requested, masks, rfl, hdecides, by rw [hstore, happly]⟩

theorem sound_step (laws : Laws sound fits) {c : Rotation}
    (hlimit : c.pool.limit ≤ c.pool.size) (hfits : fits c.pool.size) {s : σ} (hs : sound s)
    (h : c.Unrefused s) : sound (c.step s).2.2 := by
  rcases step_cases h with ⟨requested, masks, -, -, happly⟩ | ⟨hsame, -⟩
  · exact (Allocation.holds_applyRanges laws hlimit hfits hs happly).1
  · rw [hsame]
    exact hs

/-- **A round loses the partition exactly by a clash.** -/
theorem partitioned_step_iff (laws : Laws sound fits) {c : Rotation}
    (hlimit : c.pool.limit ≤ c.pool.size) (hfits : fits c.pool.size)
    (hcompatible : ∀ requested ∈ c.allocations, Allocation.Compatible c.pool c.tenants requested)
    {s : σ} (hs : sound s) (hpartition : Partitioned c.tenants s) (h : c.Unrefused s) :
    Partitioned c.tenants (c.step s).2.2 ↔ ¬c.Clashes s := by
  rcases step_cases h with ⟨requested, masks, hnext, hdecides, happly⟩ | ⟨hsame, hnothing⟩
  · have hcompatible' := hcompatible requested (List.mem_of_getElem? hnext)
    rw [Allocation.partitioned_applyRanges_iff laws hlimit hfits hcompatible' hs hpartition happly]
    refine not_congr ⟨fun hclash => ⟨⟨masks, hdecides⟩, requested, hnext, hclash⟩, ?_⟩
    rintro ⟨-, requested', hnext', hclash⟩
    rw [hnext] at hnext'
    rwa [Option.some.inj hnext']
  · rw [hsame]
    refine ⟨fun _ hclash => ?_, fun _ => hpartition⟩
    obtain ⟨⟨masks, hdecides⟩, -⟩ := hclash
    exact hnothing masks hdecides

/-! ### Rounds one after the other -/

/-- What a cycle never changes. -/
theorem settings_after (c : Rotation) (s : σ) (n : Nat) :
    (after c s n).1.pool = c.pool ∧ (after c s n).1.tenants = c.tenants ∧
      (after c s n).1.allocations = c.allocations := by
  induction n with
  | zero => exact ⟨rfl, rfl, rfl⟩
  | succ n ih =>
      rw [after, cycle_step]
      exact ih

theorem sound_after (laws : Laws sound fits) {c : Rotation}
    (hlimit : c.pool.limit ≤ c.pool.size) (hfits : fits c.pool.size) {s : σ} (hs : sound s)
    {n : Nat} (h : ∀ k < n, (after c s k).1.Unrefused (after c s k).2) :
    sound (after c s n).2 := by
  induction n with
  | zero => exact hs
  | succ n ih =>
      obtain ⟨hpool, -, -⟩ := settings_after c s n
      have hsound := ih fun k hk => h k (by omega)
      exact sound_step laws (by rw [hpool]; exact hlimit) (by rw [hpool]; exact hfits) hsound
        (h n (by omega))

/-- While the partition lasts, the next round keeps it unless it clashes. -/
theorem partitioned_after_succ_iff (laws : Laws sound fits) {c : Rotation}
    (hlimit : c.pool.limit ≤ c.pool.size) (hfits : fits c.pool.size)
    (hcompatible : ∀ requested ∈ c.allocations, Allocation.Compatible c.pool c.tenants requested)
    {s : σ} (hs : sound s) {n : Nat}
    (h : ∀ k < n + 1, (after c s k).1.Unrefused (after c s k).2)
    (hpartition : Partitioned c.tenants (after c s n).2) :
    Partitioned c.tenants (after c s (n + 1)).2 ↔
      ¬(after c s n).1.Clashes (after c s n).2 := by
  obtain ⟨hpool, htenants, hallocations⟩ := settings_after c s n
  have hsound : sound (after c s n).2 :=
    sound_after laws hlimit hfits hs fun k hk => h k (by omega)
  have hstep := partitioned_step_iff laws (c := (after c s n).1) (by rw [hpool]; exact hlimit)
    (by rw [hpool]; exact hfits) (by rw [hpool, htenants, hallocations]; exact hcompatible)
    hsound (by rw [htenants]; exact hpartition) (h n (by omega))
  rwa [htenants] at hstep

/-- **Rounds keep the partition exactly while none of them clashes.** -/
theorem partitioned_after_iff (laws : Laws sound fits) {c : Rotation}
    (hlimit : c.pool.limit ≤ c.pool.size) (hfits : fits c.pool.size)
    (hcompatible : ∀ requested ∈ c.allocations, Allocation.Compatible c.pool c.tenants requested)
    {s : σ} (hs : sound s) (hpartition : Partitioned c.tenants s) {n : Nat}
    (h : ∀ k < n, (after c s k).1.Unrefused (after c s k).2) :
    (∀ k ≤ n, Partitioned c.tenants (after c s k).2) ↔
      ∀ k < n, ¬(after c s k).1.Clashes (after c s k).2 := by
  have hsucc : ∀ k < n, Partitioned c.tenants (after c s k).2 →
      (Partitioned c.tenants (after c s (k + 1)).2 ↔
        ¬(after c s k).1.Clashes (after c s k).2) := fun k hk =>
    partitioned_after_succ_iff laws hlimit hfits hcompatible hs fun j hj => h j (by omega)
  constructor
  · intro hall k hk
    exact (hsucc k hk (hall k (by omega))).1 (hall (k + 1) (by omega))
  · intro hclash k
    induction k with
    | zero => intro _; exact hpartition
    | succ k ih =>
        intro hk
        exact (hsucc k (by omega) (ih (by omega))).2 (hclash k (by omega))

/-- A cycle with a range for every slice in each of its allocations never clashes. -/
theorem not_clashes_of_explicit {c : Rotation}
    (hexplicit : ∀ requested ∈ c.allocations, ∀ slice < c.tenants,
      (Allocation.asked requested slice).isNone = false) (s : σ) (n : Nat) :
    ¬(after c s n).1.Clashes (after c s n).2 := by
  rintro ⟨-, requested, hnext, hclash⟩
  obtain ⟨hpool, htenants, hallocations⟩ := settings_after c s n
  rw [hpool, htenants] at hclash
  rw [hallocations] at hnext
  exact Allocation.not_clash_of_explicit (hexplicit requested (List.mem_of_getElem? hnext)) _
    hclash

theorem rejecting_applyRanges {pool : Pool} {tenants : Nat} {requested : SliceMap Range}
    {s : MemoryStore} (h : s.rejecting = false) :
    (Allocation.applyRanges pool tenants requested s).2.rejecting = false := by
  unfold Allocation.applyRanges Allocation.carryOut
  split
  · exact h
  · rename_i masks _
    have hwritten := (MemoryStore.writeMasks_of_not_rejecting h masks.entries).2
    split <;> rename_i hwrite <;> rwa [hwrite] at hwritten

/-- No round makes a store in memory reject writes. -/
theorem rejecting_after {c : Rotation} {s : MemoryStore} (h : s.rejecting = false) (n : Nat) :
    (after c s n).2.rejecting = false := by
  induction n with
  | zero => exact h
  | succ n ih =>
      rw [after, store_step]
      split
      · exact ih
      · exact rejecting_applyRanges ih

/-- **Ranges keep the partition unless they clash.**  A request for compatible ranges that is
carried out leaves the masks disjoint exactly if it asks for no unit that a slice it leaves alone
holds.  A cycle of such requests, none of whose writes is refused, leaves them disjoint after
every round exactly if no round clashes; it never does if each of its allocations has a range for
every slice. -/
theorem partitioned_of_compatible_ranges {pool : Pool} (hpool : pool.validate = .ok ())
    {tenants : Nat} {s : σ} (hs : Faithful pool.size s) (hpartition : Partitioned tenants s) :
    (∀ requested written t, Allocation.Compatible pool tenants requested →
      Allocation.applyRanges pool tenants requested s = (.ok written, t) →
        (Partitioned tenants t ↔ ¬Allocation.Clash pool tenants requested s)) ∧
    ∀ allocations : List (SliceMap Range),
      (∀ requested ∈ allocations, Allocation.Compatible pool tenants requested) →
      ∀ n, (∀ k < n, (after (start pool tenants allocations) s k).1.Unrefused
          (after (start pool tenants allocations) s k).2) →
        ((∀ k ≤ n, Partitioned tenants (after (start pool tenants allocations) s k).2) ↔
          ∀ k < n, ¬(after (start pool tenants allocations) s k).1.Clashes
            (after (start pool tenants allocations) s k).2) ∧
        ((∀ requested ∈ allocations, ∀ slice < tenants,
            (Allocation.asked requested slice).isNone = false) →
          Partitioned tenants (after (start pool tenants allocations) s n).2) := by
  obtain ⟨sound, fits, laws, hfits, hsound⟩ := hs
  have hlimit := Pool.limit_le_size hpool
  refine ⟨fun requested written t hcompatible happly =>
    Allocation.partitioned_applyRanges_iff laws hlimit hfits hcompatible hsound hpartition happly,
    fun allocations hcompatible n h => ?_⟩
  have hall := partitioned_after_iff (c := start pool tenants allocations) laws hlimit hfits
    hcompatible hsound hpartition h
  refine ⟨hall, fun hexplicit => hall.2 (fun k _ => ?_) n (Nat.le_refl n)⟩
  exact not_clashes_of_explicit (c := start pool tenants allocations) hexplicit s k

/-- A cycle that names one slice at a time: slice 0 gets two units and keeps them when slice 1
gets the same ones. -/
theorem not_partitioned_of_idle_slice :
    let pool : Pool := .full 4
    let first : SliceMap Range := .ofList [(0, ⟨0, 1⟩)]
    let second : SliceMap Range := .ofList [(1, ⟨0, 1⟩)]
    let c : Rotation := start pool 2 [first, second]
    let s : MemoryStore := .empty 4
    pool.validate = .ok () ∧ Allocation.Compatible pool 2 first ∧
      Allocation.Compatible pool 2 second ∧ Partitioned 2 (after c s 0).2 ∧
      Partitioned 2 (after c s 1).2 ∧
      (Allocation.applyRanges pool 2 second (after c s 1).2).1
        = .ok (.ofList [(1, ⟨[true, true, false, false]⟩)]) ∧
      (Allocation.applyRanges pool 2 second (after c s 1).2).2 = (after c s 2).2 ∧
      ¬Partitioned 2 (after c s 2).2 := by
  decide +kernel

/-- Two slices that take turns at the greater part of ten units, each of them named in both
allocations. -/
theorem partitioned_of_taking_turns :
    let pool : Pool := .full 10
    let allocations : List (SliceMap Range) :=
      [.ofList [(0, ⟨0, 3⟩), (1, ⟨4, 7⟩)], .ofList [(0, ⟨0, 1⟩), (1, ⟨2, 9⟩)]]
    let s : MemoryStore := .empty 10
    pool.validate = .ok () ∧ Faithful 10 s ∧ Partitioned 2 s ∧
      (∀ requested ∈ allocations, Allocation.Compatible pool 2 requested) ∧
      (∀ requested ∈ allocations, ∀ slice < 2,
        (Allocation.asked requested slice).isNone = false) ∧
      Partitioned 2 (after (start pool 2 allocations) s 3).2 := by
  intro pool allocations s
  have hpool : pool.validate = .ok () := rfl
  have hfaithful : Faithful 10 s := MemoryStore.faithful 10 s
  have hpartition : Partitioned 2 s := by decide +kernel
  have hcompatible : ∀ requested ∈ allocations, Allocation.Compatible pool 2 requested := by
    decide +kernel
  have hexplicit : ∀ requested ∈ allocations, ∀ slice < 2,
      (Allocation.asked requested slice).isNone = false := by decide +kernel
  have hunrefused : ∀ k < 3, (after (start pool 2 allocations) s k).1.Unrefused
      (after (start pool 2 allocations) s k).2 :=
    fun k _ masks _ => (MemoryStore.writeMasks_of_not_rejecting (rejecting_after rfl k) _).1
  exact ⟨hpool, hfaithful, hpartition, hcompatible, hexplicit,
    ((partitioned_of_compatible_ranges hpool hfaithful hpartition).2 allocations hcompatible 3
      hunrefused).2 hexplicit⟩

end Rotation

end RanSlicing
