/-
Which daemons can start.

The settings of a daemon are checked before it is built, and the check reads the numbers of the
cell but not the requests in the settings: an initial allocation and the allocations of a cycle
meet the number of slices when they are carried out, and one that names a slice beyond it is refused
then.  So a daemon whose settings are in order may still refuse to start.  Where the store fails
nothing this is the only reason: the start succeeds exactly if the request it begins with is
admissible, and a later round of a cycle reports nothing amiss exactly if the allocation is whose
turn it is (`start_of_validate`).  A cycle moves on by one allocation a round whatever becomes of it,
so the allocation of a round is found by counting the rounds (`next_after`).
-/
import RanSlicing.Agent
import RanSlicing.Proofs.Allocation.Admissible
import RanSlicing.Proofs.Control.Rotation
import RanSlicing.Proofs.Control.RotationReport

namespace RanSlicing

open Store

variable {σ : Type} [Store σ]

namespace Rotation

/-! ### Whose turn it is -/

/-- The rounds after the first are the rounds of the cycle and the store it leaves. -/
theorem after_step (c : Rotation) (s : σ) (n : Nat) :
    after (c.step s).2.1 (c.step s).2.2 n = after c s (n + 1) := by
  induction n with
  | zero => rfl
  | succ n ih => rw [after, ih]; rfl

/-- **After n rounds it is the turn of the n-th allocation**, counted round the cycle. -/
theorem next_after {c : Rotation} (h : c.next < c.allocations.length) (s : σ) (n : Nat) :
    (after c s n).1.next = (c.next + n) % c.allocations.length := by
  induction n with
  | zero => exact (Nat.mod_eq_of_lt h).symm
  | succ n ih =>
      obtain ⟨-, -, hallocations⟩ := settings_after c s n
      have hlt : (c.next + n) % c.allocations.length < c.allocations.length :=
        Nat.mod_lt _ (Nat.zero_lt_of_lt h)
      rw [after, cycle_step, next_advance (by rwa [hallocations, ih]), hallocations, ih,
        Nat.mod_add_mod, Nat.add_assoc]

/-! ### Rounds on a store in which nothing fails -/

variable {ready : σ → Prop} {c : Rotation} {s : σ}

/-- A round reports nothing amiss exactly if its allocation is admissible. -/
theorem incidents_step_iff (willing : Willing c.pool c.tenants ready)
    (hserves : c.pool.Serves c.tenants) (hs : ready s) {requested : SliceMap Range}
    (h : c.allocations[c.next]? = some requested) :
    (c.step s).1.incidents = [] ↔ (Request.ranges requested).Admissible c.pool c.tenants := by
  rw [step_of_some h]
  by_cases hadmissible : (Request.ranges requested).Admissible c.pool c.tenants
  · obtain ⟨masks, t, happly, -⟩ :=
      Allocation.apply_of_admissible willing hserves hs hadmissible
    replace happly : Allocation.applyRanges c.pool c.tenants requested s = (.ok masks, t) := happly
    rw [happly]
    exact iff_of_true rfl hadmissible
  · obtain ⟨e, happly, -⟩ :=
      Allocation.apply_of_not_admissible willing hserves hs hadmissible
    replace happly : Allocation.applyRanges c.pool c.tenants requested s = (.error e, s) := happly
    rw [happly]
    exact iff_of_false (by simp [reportOf]) hadmissible

/-- A store in which nothing fails stays one. -/
theorem ready_step (willing : Willing c.pool c.tenants ready) (hserves : c.pool.Serves c.tenants)
    (hs : ready s) : ready (c.step s).2.2 := by
  rw [store_step]
  cases c.allocations[c.next]? with
  | none => exact hs
  | some requested =>
      show ready (Allocation.apply c.pool c.tenants s (.ranges requested)).2
      by_cases hadmissible : (Request.ranges requested).Admissible c.pool c.tenants
      · obtain ⟨masks, t, happly, ht⟩ :=
          Allocation.apply_of_admissible willing hserves hs hadmissible
        rw [happly]
        exact ht
      · obtain ⟨e, happly, -⟩ :=
          Allocation.apply_of_not_admissible willing hserves hs hadmissible
        rw [happly]
        exact hs

theorem ready_after (willing : Willing c.pool c.tenants ready) (hserves : c.pool.Serves c.tenants)
    (hs : ready s) (n : Nat) : ready (after c s n).2 := by
  induction n with
  | zero => exact hs
  | succ n ih =>
      obtain ⟨hpool, htenants, -⟩ := settings_after c s n
      exact ready_step (by rw [hpool, htenants]; exact willing)
        (by rw [hpool, htenants]; exact hserves) ih

end Rotation

namespace Agent

/-! ### A daemon that goes round a cycle -/

variable {a : Agent σ} {c : Rotation}

theorem runOnce_rotation (h : a.controller = .rotation c) (tree : FileTree) :
    a.runOnce tree = ((c.step a.store).1, { a with
      controller := .rotation (c.step a.store).2.1
      store := (c.step a.store).2.2
      rounds := a.rounds + 1 }) := by
  rw [runOnce, h]

/-- The rounds of the daemon are the rounds of its cycle. -/
theorem runRounds_rotation (h : a.controller = .rotation c) (files : σ → FileTree) (n : Nat) :
    (a.runRounds files n).controller = .rotation (Rotation.after c a.store n).1 ∧
      (a.runRounds files n).store = (Rotation.after c a.store n).2 := by
  induction n generalizing a c with
  | zero => exact ⟨h, rfl⟩
  | succ n ih =>
      rw [← Rotation.after_step, runRounds, runOnce_rotation h]
      exact ih rfl

/-! ### The start -/

/-- The start of the daemon is a request to the store: it ends as the request does. -/
def StartsWith (a : Agent σ) (request : Request) : Prop :=
  let pool := a.settings.slicing.pool
  let tenants := a.settings.slicing.tenants
  ∃ report, a.start.1 = (Allocation.apply pool tenants a.store request).1.map report ∧
    a.start.2.store = (Allocation.apply pool tenants a.store request).2

variable {settings : AgentSettings} {s : σ}

theorem start_of_no_initial (source : MetricsSource) (hmode : settings.agent.mode = .heuristic)
    (hinitial : settings.agent.initialAllocation = none) :
    (create settings s source).start = (.ok none, create settings s source) := by
  simp only [start, create, Controller.ofSettings, hmode, hinitial]

theorem startsWith_initial (source : MetricsSource) (hmode : settings.agent.mode = .heuristic)
    {request : Request} (hinitial : settings.agent.initialAllocation = some request) :
    StartsWith (create settings s source) request := by
  refine ⟨fun _ => none, ?_⟩
  simp only [start, create, Controller.ofSettings, hmode, hinitial]
  cases Allocation.apply settings.slicing.pool settings.slicing.tenants s request with
  | mk answer t => cases answer <;> exact ⟨rfl, rfl⟩

theorem startsWith_first (source : MetricsSource) (hmode : settings.agent.mode = .rotation)
    {first : SliceMap Range} (hfirst : settings.rotation.allocations[0]? = some first) :
    StartsWith (create settings s source) (.ranges first) := by
  refine ⟨fun written => some { round := 0, masksWritten := written.keys }, ?_⟩
  simp only [start, create, Controller.ofSettings, hmode, Rotation.tryStep, Rotation.start, hfirst,
    Allocation.apply]
  cases Allocation.applyRanges settings.slicing.pool settings.slicing.tenants first s with
  | mk answer t => cases answer <;> exact ⟨rfl, rfl⟩

/-- A start on a store in which nothing fails succeeds, or is refused for its content. -/
theorem StartsWith.cases {ready : σ → Prop} {a : Agent σ} {request : Request}
    (h : StartsWith a request)
    (willing : Willing a.settings.slicing.pool a.settings.slicing.tenants ready)
    (hserves : a.settings.slicing.pool.Serves a.settings.slicing.tenants) (hs : ready a.store) :
    let admissible := request.Admissible a.settings.slicing.pool a.settings.slicing.tenants
    (admissible ∧ ∃ answer, a.start.1 = .ok answer) ∨
      ¬admissible ∧ ∃ e, a.start.1 = .error e ∧ a.start.2.store = a.store ∧
        (e.kind = .invalidRequest ∨ e.kind = .invalidMask) := by
  intro admissible
  obtain ⟨report, hanswer, hstore⟩ := h
  by_cases hadmissible : admissible
  · obtain ⟨masks, t, happly, -⟩ := Allocation.apply_of_admissible willing hserves hs hadmissible
    rw [happly] at hanswer
    exact .inl ⟨hadmissible, report masks, hanswer⟩
  · obtain ⟨e, happly, hkind⟩ :=
      Allocation.apply_of_not_admissible willing hserves hs hadmissible
    rw [happly] at hanswer hstore
    exact .inr ⟨hadmissible, e, hanswer, hstore, hkind⟩

/-- A daemon that goes round a cycle has taken its first step when it has started. -/
theorem rounds_of_start (s : σ) (source : MetricsSource) (hmode : settings.agent.mode = .rotation)
    (files : σ → FileTree) (n : Nat) :
    let c := Rotation.start settings.slicing.pool settings.slicing.tenants
      settings.rotation.allocations
    let later := (create settings s source).start.2.runRounds files n
    later.controller = .rotation (Rotation.after c s (n + 1)).1 ∧
      later.store = (Rotation.after c s (n + 1)).2 := by
  intro c later
  have hstart : (create settings s source).start.2.controller = .rotation (c.step s).2.1 ∧
      (create settings s source).start.2.store = (c.step s).2.2 := by
    simp only [start, create, Controller.ofSettings, hmode, Rotation.step]
    cases hstep : c.tryStep s with
    | mk answer rest => cases answer <;> exact ⟨rfl, rfl⟩
  rw [← Rotation.after_step, ← hstart.2]
  exact runRounds_rotation hstart.1 files n

end Agent

namespace AgentSettings

/-! ### Starting with checked settings -/

/-- The allocation whose turn it is in a round of the cycle, the start being round 0, can be carried
out in the cell. -/
def TurnAdmissible (settings : AgentSettings) (n : Nat) : Prop :=
  ∃ requested,
    settings.rotation.allocations[n % settings.rotation.allocations.length]? = some requested ∧
      (Request.ranges requested).Admissible settings.slicing.pool settings.slicing.tenants

/-- What the daemon begins with can be carried out in the cell: its initial allocation if it follows
the load, and the first allocation of its cycle otherwise. -/
def BeginsAdmissible (settings : AgentSettings) : Prop :=
  match settings.agent.mode with
  | .heuristic => ∀ request, settings.agent.initialAllocation = some request →
      request.Admissible settings.slicing.pool settings.slicing.tenants
  | .rotation => settings.TurnAdmissible 0

/-- An allocation of the cycle is admissible if it is and it is its turn. -/
theorem turnAdmissible_iff {settings : AgentSettings} {n : Nat} {requested : SliceMap Range}
    (h : settings.rotation.allocations[n % settings.rotation.allocations.length]? =
      some requested) :
    settings.TurnAdmissible n ↔
      (Request.ranges requested).Admissible settings.slicing.pool settings.slicing.tenants := by
  rw [TurnAdmissible, h]
  simp

end AgentSettings

namespace Agent

variable {settings : AgentSettings} {ready : σ → Prop} {s : σ}

/-- The start of a daemon succeeds exactly if what it begins with is admissible. -/
theorem start_cases (hstartable : settings.Startable)
    (willing : Willing settings.slicing.pool settings.slicing.tenants ready) (hs : ready s)
    (source : MetricsSource) :
    let a := create settings s source
    (settings.BeginsAdmissible ∧ ∃ answer, a.start.1 = .ok answer) ∨
      ¬settings.BeginsAdmissible ∧ ∃ e, a.start.1 = .error e ∧ a.start.2.store = s ∧
        (e.kind = .invalidRequest ∨ e.kind = .invalidMask) := by
  intro a
  cases hmode : settings.agent.mode with
  | heuristic =>
      have hbegins : settings.BeginsAdmissible ↔ ∀ request,
          settings.agent.initialAllocation = some request →
            request.Admissible settings.slicing.pool settings.slicing.tenants := by
        rw [AgentSettings.BeginsAdmissible, hmode]
      rw [hbegins]
      cases hinitial : settings.agent.initialAllocation with
      | none =>
          have hstart : a.start = (.ok none, a) := start_of_no_initial source hmode hinitial
          exact .inl ⟨fun _ hsome => by simp at hsome, none, by rw [hstart]⟩
      | some request =>
          simp only [Option.some.injEq, forall_eq']
          exact (startsWith_initial source hmode hinitial).cases willing
            hstartable.serves hs
  | rotation =>
      obtain ⟨first, hfirst⟩ : ∃ first, settings.rotation.allocations[0]? = some first :=
        ⟨_, List.getElem?_eq_getElem (hstartable.cycle hmode)⟩
      have hbegins : settings.BeginsAdmissible ↔
          (Request.ranges first).Admissible settings.slicing.pool settings.slicing.tenants := by
        rw [AgentSettings.BeginsAdmissible, hmode]
        exact AgentSettings.turnAdmissible_iff (by rw [Nat.zero_mod]; exact hfirst)
      rw [hbegins]
      exact (startsWith_first source hmode hfirst).cases willing hstartable.serves hs

/-- A later round reports nothing amiss exactly if the allocation is admissible whose turn it is. -/
theorem incidents_of_later_round (hstartable : settings.Startable)
    (willing : Willing settings.slicing.pool settings.slicing.tenants ready) (hs : ready s)
    (source : MetricsSource) (hmode : settings.agent.mode = .rotation) (files : σ → FileTree)
    (n : Nat) (tree : FileTree) :
    (((create settings s source).start.2.runRounds files n).runOnce tree).1.incidents = [] ↔
      settings.TurnAdmissible (n + 1) := by
  have hpos := hstartable.cycle hmode
  obtain ⟨hcontroller, hstore⟩ := rounds_of_start s source hmode files n
  set c := Rotation.start settings.slicing.pool settings.slicing.tenants
    settings.rotation.allocations with hc
  obtain ⟨hpool, htenants, hallocations⟩ := Rotation.settings_after c s (n + 1)
  have hnext : (Rotation.after c s (n + 1)).1.next =
      (n + 1) % settings.rotation.allocations.length := by
    rw [Rotation.next_after hpos, hc, Rotation.start, Nat.zero_add]
  obtain ⟨requested, hturn⟩ : ∃ requested, settings.rotation.allocations[(n + 1) %
      settings.rotation.allocations.length]? = some requested :=
    ⟨_, List.getElem?_eq_getElem (Nat.mod_lt _ hpos)⟩
  have hready := Rotation.ready_after (c := c) willing hstartable.serves hs (n + 1)
  rw [runOnce_rotation hcontroller, hstore, AgentSettings.turnAdmissible_iff hturn,
    Rotation.incidents_step_iff (by rw [hpool, htenants]; exact willing)
      (by rw [hpool, htenants]; exact hstartable.serves) hready
      (by rw [hallocations, hnext]; exact hturn), hpool, htenants]
  rfl

/-- **Checked settings start exactly if what they begin with is admissible**, on a store in which
nothing fails.  Otherwise the start is refused for the content of the request and no record
changes.  Of a cycle every later round, however the start ended, reports nothing amiss exactly if
the allocation whose turn it is is admissible. -/
theorem start_of_validate {settings : AgentSettings} (hvalid : settings.validate = .ok ())
    {ready : σ → Prop}
    (willing : Willing settings.slicing.pool settings.slicing.tenants ready) {s : σ}
    (hs : ready s) (source : MetricsSource) :
    let a := create settings s source
    ((∃ answer, a.start.1 = .ok answer) ↔ settings.BeginsAdmissible) ∧
      (∀ e, a.start.1 = .error e →
        a.start.2.store = s ∧ (e.kind = .invalidRequest ∨ e.kind = .invalidMask)) ∧
      (settings.agent.mode = .rotation → ∀ (files : σ → FileTree) (n : Nat) (tree : FileTree),
        ((a.start.2.runRounds files n).runOnce tree).1.incidents = [] ↔
          settings.TurnAdmissible (n + 1)) := by
  intro a
  have hstartable := AgentSettings.startable_of_validate hvalid
  refine ⟨?_, ?_, incidents_of_later_round hstartable willing hs source⟩
  · rcases start_cases hstartable willing hs source with ⟨hbegins, hok⟩ | ⟨hnot, e, he, -⟩
    · exact iff_of_true hok hbegins
    · refine iff_of_false ?_ hnot
      rintro ⟨answer, hanswer⟩
      cases hanswer.symm.trans he
  · intro e he
    rcases start_cases hstartable willing hs source with ⟨-, answer, hok⟩ | ⟨-, e', he', hrest⟩
    · cases he.symm.trans hok
    · obtain rfl := Except.error.inj (he.symm.trans he')
      exact hrest

/-- Two slices and a cycle of two allocations, the second of which names a third slice.  The daemon
starts; its first round reports a refusal, and its second one, which is at the first allocation
again, does not. -/
theorem start_of_validate_with_foreign_slice :
    let settings : AgentSettings := { AgentSettings.standard with
      agent := { AgentOptions.standard with mode := .rotation }
      rotation := ⟨[.ofList [(0, ⟨0, 3⟩)], .ofList [(2, ⟨0, 3⟩)]]⟩ }
    let s : MemoryStore := .empty 25
    let started := (create settings s (.replay [])).start
    settings.validate = .ok () ∧ (∀ slice, Takes s slice ∧ Readable s slice) ∧
      (∃ answer, started.1 = .ok answer) ∧ (started.2.runOnce .empty).1.incidents ≠ [] ∧
      ((started.2.runRounds (fun _ => .empty) 1).runOnce .empty).1.incidents = [] := by
  intro settings s started
  have hstarted : started = (create settings s (.replay [])).start := rfl
  have hvalid : settings.validate = .ok () := by rfl
  have hwilling : ∀ slice, Takes s slice ∧ Readable s slice := fun slice =>
    ⟨MemoryStore.takes_iff.2 rfl, _, rfl⟩
  obtain ⟨hstart, -, hlater⟩ := start_of_validate hvalid
    (MemoryStore.steady.willing MemoryStore.laws (fun _ _ => ⟨_, rfl⟩) trivial settings.slicing.tenants)
    ⟨trivial, fun slice _ => hwilling slice⟩ (.replay [])
  have hfirst : settings.TurnAdmissible 0 := ⟨.ofList [(0, ⟨0, 3⟩)], by decide +kernel, by decide +kernel⟩
  have hforeign : ¬settings.TurnAdmissible 1 := by
    rw [AgentSettings.turnAdmissible_iff (n := 1) rfl]
    decide +kernel
  have hagain : settings.TurnAdmissible 2 := ⟨.ofList [(0, ⟨0, 3⟩)], by decide +kernel, by decide +kernel⟩
  refine ⟨hvalid, hwilling, hstart.2 hfirst, ?_, ?_⟩
  · exact fun hnone => hforeign ((hlater rfl (fun _ => .empty) 0 .empty).1 hnone)
  · rw [hstarted]
    exact (hlater rfl (fun _ => .empty) 1 .empty).2 hagain

/-- One slice and the standard cycle, which divides the pool between two: the settings are in order,
every read and write succeeds, and the daemon does not start. -/
theorem no_start_of_standard_cycle :
    let settings : AgentSettings := { AgentSettings.standard with
      slicing := { SlicingSettings.standard with tenants := 1 }
      agent := { AgentOptions.standard with mode := .rotation } }
    let s : MemoryStore := .empty 25
    settings.validate = .ok () ∧ (∀ slice, Takes s slice ∧ Readable s slice) ∧
      (create settings s (.replay [])).start.1 = .error (.rangeNotConfigured 1 1) := by
  intro settings s
  exact ⟨by rfl, fun slice => ⟨MemoryStore.takes_iff.2 rfl, _, rfl⟩, by rfl⟩

end Agent

end RanSlicing
