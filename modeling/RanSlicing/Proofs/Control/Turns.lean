/-
A cycle never slips.

The cycle can be entered in two ways, one that puts a refusal into the report and one that answers
with it, and both move it on before they meet anything that can fail.  So where it stands after any
calls is settled by their number alone: one call takes the cycle of `k` calls to the cycle of
`k + 1` (`advance_turned`, `enter_of_some`), and any run of calls adds up (`cycle_afterCalls`).
What may become of the store between two calls, and which reads and writes of it fail, has no part
in it.  What a call does to the store is what the request for its allocation does (`Answers`).
-/
import RanSlicing.Proofs.Control.RotationReport
import RanSlicing.Proofs.Control.Rotation
import RanSlicing.Proofs.Store.KeptMasks

namespace RanSlicing

open Store

namespace Allocation

variable {σ : Type} [Store σ] {pool : Pool} {tenants : Nat} {requested : SliceMap Range}

/-- **A request for ranges that was carried out.**  The masks were made of the ranges and of what
was on record, they are what is read, and a slice that got none reads as before. -/
theorem readMask_applyRanges {s t : σ} {masks : SliceMap Mask} (hkeeps : KeepsMasks pool.size s)
    (h : applyRanges pool tenants requested s = (.ok masks, t)) :
    ∃ persisted, recordedMasks s tenants = .ok persisted ∧
      ranges requested pool tenants persisted = .ok masks ∧
      ∀ slice, readMask t slice = (masks.get? slice).elim (readMask s slice) .ok := by
  obtain ⟨hdecided, hwrite⟩ := carryOut_eq_ok h
  obtain ⟨persisted, hpersisted, hmasks⟩ := bind_eq_ok_iff.1 hdecided
  exact ⟨persisted, hpersisted, hmasks,
    hkeeps.writeMasks masks.ascending (width_of_ranges hmasks) hwrite⟩

end Allocation

namespace Rotation

/-- How the cycle is called: for a report whatever happens, or for a report or a refusal. -/
inductive Entry where
  | step
  | tryStep
  deriving DecidableEq, Repr

variable {σ : Type} [Store σ]

/-- One call: the answer, the cycle and the store. -/
def enter (c : Rotation) (s : σ) : Entry → Except Fault Report × Rotation × σ
  | .step => (.ok (c.step s).1, (c.step s).2)
  | .tryStep => c.tryStep s

/-- What a call answers when its request was answered. -/
def answer (c : Rotation) (entry : Entry) (outcome : Except Fault (SliceMap Mask)) :
    Except Fault Report :=
  match entry with
  | .step => .ok (c.reportOf outcome)
  | .tryStep => outcome.map fun written => { round := c.round, masksWritten := written.keys }

/-- **Either way of calling requests the allocation whose turn it is, and moves on.** -/
theorem enter_of_some {c : Rotation} {requested : SliceMap Range}
    (h : c.allocations[c.next]? = some requested) (s : σ) (entry : Entry) :
    c.enter s entry = (c.answer entry (Allocation.applyRanges c.pool c.tenants requested s).1,
      c.advance, (Allocation.applyRanges c.pool c.tenants requested s).2) := by
  cases entry with
  | step => rw [enter, step_of_some h]; rfl
  | tryStep =>
      simp only [enter, tryStep, h]
      cases Allocation.applyRanges c.pool c.tenants requested s with
      | mk outcome t => cases outcome <;> rfl

omit [Store σ] in
/-- An answer with nothing amiss lists the masks of a request that was carried out. -/
theorem exists_masks_of_answer {c : Rotation} {entry : Entry}
    {outcome : Except Fault (SliceMap Mask)} {report : Report}
    (h : c.answer entry outcome = .ok report) (hnothing : report.incidents = []) :
    ∃ masks, outcome = .ok masks ∧ report.masksWritten = masks.keys := by
  cases outcome with
  | ok masks =>
      refine ⟨masks, rfl, ?_⟩
      cases entry <;> exact congrArg Report.masksWritten (Except.ok.inj h).symm
  | error e =>
      cases entry with
      | step =>
          rw [← Except.ok.inj h] at hnothing
          exact absurd hnothing (List.cons_ne_nil _ _)
      | tryStep => cases h

/-! ### Runs of calls -/

/-- A call, and what became of the store since the one before. -/
structure Call (σ : Type) where
  meanwhile : σ → σ
  entry : Entry

/-- The cycle and the store after some calls. -/
def afterCalls (c : Rotation) (s : σ) : List (Call σ) → Rotation × σ
  | [] => (c, s)
  | call :: rest =>
    afterCalls (c.enter (call.meanwhile s) call.entry).2.1
      (c.enter (call.meanwhile s) call.entry).2.2 rest

/-- The cycle that has been called some times. -/
def turned (pool : Pool) (tenants : Nat) (allocations : List (SliceMap Range)) (calls : Nat) :
    Rotation :=
  ⟨pool, tenants, allocations, calls % allocations.length, calls⟩

variable {pool : Pool} {tenants : Nat} {allocations : List (SliceMap Range)}

/-- There is an allocation whose turn it is. -/
theorem exists_requested (hne : allocations ≠ []) (k : Nat) :
    ∃ requested, allocations[k % allocations.length]? = some requested :=
  ⟨_, List.getElem?_eq_getElem (Nat.mod_lt k (List.length_pos_iff.2 hne))⟩

/-- A further call turns the cycle by one. -/
theorem advance_turned (hne : allocations ≠ []) (k : Nat) :
    (turned pool tenants allocations k).advance = turned pool tenants allocations (k + 1) := by
  have hlt : k % allocations.length < allocations.length :=
    Nat.mod_lt k (List.length_pos_iff.2 hne)
  have hnext : (turned pool tenants allocations k).advance.next
      = (k % allocations.length + 1) % allocations.length := next_advance hlt
  rw [Nat.mod_add_mod] at hnext
  exact congrArg (fun next => (⟨pool, tenants, allocations, next, k + 1⟩ : Rotation)) hnext

/-- **Any calls turn the cycle by their number**, whatever fails on the way. -/
theorem cycle_afterCalls (hne : allocations ≠ []) (s : σ) (calls : List (Call σ)) (k : Nat) :
    (afterCalls (turned pool tenants allocations k) s calls).1
      = turned pool tenants allocations (k + calls.length) := by
  induction calls generalizing s k with
  | nil => rfl
  | cons call rest ih =>
      obtain ⟨requested, hrequested⟩ := exists_requested hne k
      have hturn : (turned pool tenants allocations k).allocations[(turned pool tenants
          allocations k).next]? = some requested := hrequested
      rw [afterCalls, enter_of_some hturn, advance_turned hne, ih, List.length_cons,
        Nat.add_right_comm, Nat.add_assoc]

/-- What a call does whose turn is the allocation `requested`. -/
structure Answers (c : Rotation) (requested : SliceMap Range) (found : σ) (entry : Entry) :
    Prop where
  /-- It leaves the store as the request for the ranges does. -/
  store : (c.enter found entry).2.2
    = (Allocation.applyRanges c.pool c.tenants requested found).2
  /-- If the request was carried out, the report lists its masks. -/
  carriedOut : ∀ masks, (Allocation.applyRanges c.pool c.tenants requested found).1 = .ok masks →
    (c.enter found entry).1 = .ok { round := c.round, masksWritten := masks.keys }
  /-- If it was refused, the report of a step has the fault and the allocation it came of. -/
  reported : entry = .step → ∀ e,
    (Allocation.applyRanges c.pool c.tenants requested found).1 = .error e →
      (c.enter found entry).1
        = .ok { round := c.round, incidents := [.store (.allocating c.next) e] }
  /-- The other way of calling answers with the fault. -/
  refused : entry = .tryStep → ∀ e,
    (Allocation.applyRanges c.pool c.tenants requested found).1 = .error e →
      (c.enter found entry).1 = .error e
  /-- If nothing is reported amiss and the store keeps what it accepts, then the masks are those
  made of the ranges and of what was on record, and the other slices read as before. -/
  masks : KeepsMasks c.pool.size found → ∀ report, (c.enter found entry).1 = .ok report →
    report.incidents = [] → ∃ persisted masks, recordedMasks found c.tenants = .ok persisted ∧
      Allocation.ranges requested c.pool c.tenants persisted = .ok masks ∧
      report.masksWritten = masks.keys ∧ ∀ slice,
        readMask (c.enter found entry).2.2 slice = (masks.get? slice).elim (readMask found slice) .ok

theorem answers_of_some {c : Rotation} {requested : SliceMap Range}
    (h : c.allocations[c.next]? = some requested) (found : σ) (entry : Entry) :
    c.Answers requested found entry := by
  have henter := enter_of_some h found entry
  refine ⟨by rw [henter], fun masks hmasks => ?_, fun hentry e he => ?_, fun hentry e he => ?_, ?_⟩
  · rw [henter, hmasks]
    cases entry <;> rfl
  · rw [henter, he, hentry]
    rfl
  · rw [henter, he, hentry]
    rfl
  · rw [henter]
    intro hkeeps report hreport hnothing
    obtain ⟨masks, hmasks, hlists⟩ := exists_masks_of_answer hreport hnothing
    obtain ⟨persisted, hpersisted, hdecided, hread⟩ :=
      Allocation.readMask_applyRanges hkeeps (Prod.ext hmasks rfl)
    exact ⟨persisted, masks, hpersisted, hdecided, hlists, hread⟩

/-- **The cycle never slips.**  After any calls it stands at the allocation that their number says,
counted round the cycle, and the next call requests that one and reports under that number.  The
stores in files and in memory keep what they accept, alone and behind the choice between them. -/
theorem calls_in_turn (hne : allocations ≠ []) (pool : Pool) (tenants : Nat) (s : σ)
    (earlier : List (Call σ)) :
    let c := (afterCalls (start pool tenants allocations) s earlier).1
    let t := (afterCalls (start pool tenants allocations) s earlier).2
    (c.next = earlier.length % allocations.length ∧ c.round = earlier.length ∧
        c.pool = pool ∧ c.tenants = tenants) ∧
      (∃ requested, allocations[earlier.length % allocations.length]? = some requested ∧
        ∀ call : Call σ, c.Answers requested (call.meanwhile t) call.entry) ∧
      (∀ store : FileStore, KeepsMasks store.pool.size store ∧
        KeepsMasks store.pool.size (Backend.file store)) ∧
      ∀ (width : Nat) (store : MemoryStore) (files : FileTree), KeepsMasks width store ∧
        KeepsMasks width (Backend.memory store files) := by
  intro c t
  have hstart : start pool tenants allocations = turned pool tenants allocations 0 := by
    rw [start, turned, Nat.zero_mod]
  have hc : c = turned pool tenants allocations earlier.length := by
    show (afterCalls (start pool tenants allocations) s earlier).1 = _
    rw [hstart, cycle_afterCalls hne, Nat.zero_add]
  obtain ⟨requested, hrequested⟩ := exists_requested hne earlier.length
  rw [hc]
  exact ⟨⟨rfl, rfl, rfl, rfl⟩, ⟨requested, hrequested, fun call => answers_of_some hrequested _ _⟩,
    fun store => ⟨store.keepsMasks, Backend.keepsMasks_file store⟩,
    fun width store files => ⟨store.keepsMasks width, Backend.keepsMasks_memory width store files⟩⟩

/-- A cycle of two allocations, the second of which names a slice that is not configured.  The first
call meets a store that rejects every write and the second one that allocation; the third is the
turn of the first allocation again, and slice 1 keeps its mask. -/
theorem calls_in_turn_after_two_failures :
    let requested : SliceMap Range := .ofList [(0, ⟨0, 1⟩)]
    let allocations : List (SliceMap Range) := [requested, .ofList [(5, ⟨0, 1⟩)]]
    let s : MemoryStore :=
      { MemoryStore.empty 4 with masks := .ofList [(1, ⟨[false, false, true, false]⟩)] }
    let earlier : List (Call MemoryStore) :=
      [⟨fun s => { s with rejecting := true }, .tryStep⟩,
        ⟨fun s => { s with rejecting := false }, .step⟩]
    let c := (afterCalls (start (.full 4) 2 allocations) s earlier).1
    let t := (afterCalls (start (.full 4) 2 allocations) s earlier).2
    let u := (c.enter t .step).2.2
    allocations ≠ [] ∧ c.next = 0 ∧ c.round = 2 ∧ t.stats.failed = 1 ∧
      (c.enter t .step).1 = .ok { round := 2, masksWritten := [0] } ∧
      readMask u 0 = .ok ⟨[true, true, false, false]⟩ ∧ readMask u 1 = readMask t 1 := by
  intro requested allocations s earlier c t u
  have hne : allocations ≠ [] := List.cons_ne_nil _ _
  obtain ⟨⟨hnext, hround, -⟩, ⟨requested', hrequested, hanswers⟩, -, hmemory⟩ :=
    calls_in_turn hne (.full 4) 2 s earlier
  have hturn : earlier.length % allocations.length = 0 := by decide +kernel
  rw [hturn] at hnext hrequested
  obtain rfl := Option.some.inj hrequested
  have hcall : c.Answers requested t .step := hanswers ⟨id, .step⟩
  have hreport : (c.enter t .step).1 = .ok { round := 2, masksWritten := [0] } :=
    hcall.carriedOut (.ofList [(0, ⟨[true, true, false, false]⟩)]) (by decide +kernel)
  obtain ⟨hkeeps, -⟩ := hmemory 4 t .empty
  obtain ⟨persisted, masks, -, -, hlists, hread⟩ := hcall.masks hkeeps _ hreport rfl
  have hother : masks.get? 1 = none := by
    have hkeys : 1 ∉ masks.keys := by
      rw [← hlists]
      decide
    rw [SortedMap.mem_keys_iff] at hkeys
    simpa [Option.eq_none_iff_forall_ne_some] using hkeys
  have hidle : readMask u 1 = readMask t 1 := by
    rw [hread 1, hother]
    rfl
  exact ⟨hne, hnext, hround, by decide +kernel, hreport, by decide +kernel, hidle⟩

end Rotation

end RanSlicing
