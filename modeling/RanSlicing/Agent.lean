/-
The daemon: a controller, the store it writes to, and the source of its metrics.

At the start the daemon makes the allocation it was told to make; if that fails, it does not
run.  From then on every period brings a round, and no failure in a round ends the daemon.
-/
import RanSlicing.Control.Rotation
import RanSlicing.Settings.Agent
import RanSlicing.Store.Backend
import RanSlicing.Telemetry.Source

namespace RanSlicing

/-- The controller of a daemon. -/
inductive Controller where
  | heuristic (controller : Heuristic)
  | rotation (controller : Rotation)

/-- The controller that the settings ask for. -/
def Controller.ofSettings (settings : AgentSettings) : Controller :=
  let pool := settings.slicing.pool
  let tenants := settings.slicing.tenants
  match settings.agent.mode with
  | .heuristic => .heuristic (.ofSettings pool tenants settings.heuristic)
  | .rotation => .rotation (.start pool tenants settings.rotation.allocations)

/-- A daemon between two rounds. -/
structure Agent (σ : Type) where
  settings : AgentSettings
  controller : Controller
  store : σ
  source : MetricsSource
  /-- How many rounds there have been. -/
  rounds : Nat

namespace Agent

variable {σ : Type} [Store σ]

/-- The daemon before its start. -/
def create (settings : AgentSettings) (store : σ) (source : MetricsSource) : Agent σ :=
  ⟨settings, .ofSettings settings, store, source, 0⟩

/-- Makes the first allocation: the configured one if the load is followed, the first of the
cycle otherwise. -/
def start (a : Agent σ) : Except Fault (Option Report) × Agent σ :=
  match a.controller with
  | .heuristic _ =>
    match a.settings.agent.initialAllocation with
    | none => (.ok none, a)
    | some request =>
      let slicing := a.settings.slicing
      match Allocation.apply slicing.pool slicing.tenants a.store request with
      | (.ok _, store) => (.ok none, { a with store })
      | (.error e, store) => (.error e, { a with store })
  | .rotation controller =>
    match controller.tryStep a.store with
    | (answer, next, store) =>
      (answer.map some, { a with controller := .rotation next, store })

/-- One round.  Metrics that cannot be had are as good as none, and the report says so first. -/
def runOnce (a : Agent σ) (files : FileTree) : Report × Agent σ :=
  match a.controller with
  | .heuristic controller =>
    let (window, source) := a.source.collect files
    let (report, next, store) := match window with
      | .ok window => controller.step a.store window
      | .error e =>
        let (report, rest) := controller.step a.store .empty
        ({ report with incidents := .metrics e :: report.incidents }, rest)
    (report, { a with controller := .heuristic next, store, source, rounds := a.rounds + 1 })
  | .rotation controller =>
    let (report, next, store) := controller.step a.store
    (report, { a with controller := .rotation next, store, rounds := a.rounds + 1 })

/-- Some rounds, where `files` is the file tree as the store leaves it. -/
def runRounds (files : σ → FileTree) : Nat → Agent σ → Agent σ
  | 0, a => a
  | n + 1, a => runRounds files n (a.runOnce (files a.store)).2

/-- How many rounds there will be before the limit, or before the seconds until the shutdown are
over; nothing if neither ends the run.  A round takes place at the end of each period. -/
def roundsAhead (a : Agent σ) (seconds : Option Nat) : Option Nat :=
  let byLimit := a.settings.agent.maxRounds.map (· - a.rounds)
  let byTime := seconds.map fun s => (s - 1) / a.settings.agent.periodSeconds
  match byLimit, byTime with
  | some m, some n => some (min m n)
  | some m, none => some m
  | none, n => n

/-- Starts and runs until the shutdown, which comes after some seconds or never. -/
def runUntil (a : Agent σ) (files : σ → FileTree) (seconds : Option Nat) :
    Except Fault Unit × Agent σ :=
  match a.start with
  | (.error e, a) => (.error e, a)
  | (.ok _, a) => (.ok (), a.runRounds files ((a.roundsAhead seconds).getD 0))

end Agent

namespace AgentSettings

/-- The store that the settings ask for. -/
def backend (s : AgentSettings) (files : FileTree) : Backend :=
  if s.agent.dryRun then .memory (.empty s.slicing.pool.size) files
  else .file ⟨s.slicing.records, s.slicing.pool, s.slicing.tenants, files, {}⟩

/-- The daemon that the settings ask for.  A store or a source that is given takes the place of
the one in the settings. -/
def build (s : AgentSettings) (files : FileTree) (store : Option Backend)
    (source : Option MetricsSource) : Except AgentFault (Agent Backend) :=
  match s.validate with
  | .error e => .error e
  | .ok () =>
    .ok (.create s (store.getD (s.backend files)) (source.getD (.directory s.telemetry)))

end AgentSettings

end RanSlicing
