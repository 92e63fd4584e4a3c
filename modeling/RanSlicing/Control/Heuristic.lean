/-
The controller that follows the load.

Two rules are evaluated once a round, one for slice 0 on what waits in its buffers and one for
slice 1 on its throughput.  Each rule has a unit of its own.  Above its band the slice claims
that unit, below the band it releases it, and if more than one user shares the slice the policy
follows: waterfilling above, round-robin below.

A round reads every mask and the policies anew and then works on its own copy.  Each mask is
written as its rule decides, the policies once at the end if a rule switched one.  What a store
refuses goes into the report, and the rest of the round takes place.
-/
import RanSlicing.Control.Report
import RanSlicing.Pool
import RanSlicing.Store.Basic
import RanSlicing.Telemetry.Window

namespace RanSlicing

/-- How the rules are set. -/
structure HeuristicSettings where
  /-- The bands by name; an entry that gives no band counts as missing. -/
  thresholds : SortedMap String Document
  bufferUnit : Nat
  throughputUnit : Nat

namespace HeuristicSettings

/-- The name of the band for the buffers. -/
def bufferKey : String := "buffer_thresh_bytes"

/-- The name of the band for the throughput. -/
def throughputKey : String := "thr_thresh_mbps"

/-- The settings of an agent that is not configured otherwise. -/
def standard : HeuristicSettings where
  thresholds := .ofList
    [(bufferKey, .list [.fraction 1000.0, .fraction 2000.0]),
      (throughputKey, .list [.fraction 0.25, .fraction 0.75])]
  bufferUnit := 2
  throughputUnit := 5

end HeuristicSettings

/-- A rule: the slice it serves, the metric it looks at, and the unit it moves. -/
structure Rule where
  slice : Nat
  metric : String
  threshold : Threshold
  unit : Nat

/-- The value that a rule finds in the averages, or why the rule is passed over. -/
def Rule.measure (r : Rule) (tenants : Nat) (snapshot : Snapshot) : Except SkipReason Float :=
  if tenants ≤ r.slice then .error .notConfigured
  else match snapshot.get? r.slice with
    | none => .error .noUsers
    | some sample =>
      if sample.userCount = 0 then .error .noUsers
      else match sample.averages.get? r.metric with
        | none => .error .missingMetric
        | some value => .ok value

/-- The number of users of a slice. -/
def Snapshot.userCount (snapshot : Snapshot) (slice : Nat) : Nat :=
  match snapshot.get? slice with
  | some sample => sample.userCount
  | none => 0

/-! ### What a rule does to the mask -/

/-- What a rule wants of a mask: nothing to be written, or a new mask and what that does. -/
inductive Proposal where
  | settled (change : MaskChange)
  | write (mask : Mask) (change : MaskChange)
  deriving DecidableEq, Repr

namespace Proposal

/-- The mask of a slice among the masks of all. -/
def maskOf (masks : List Mask) (slice : Nat) : Mask := masks.getD slice default

/-- To claim a unit for a slice, unless it is held already. -/
def claim (pool : Pool) (masks : List Mask) (slice unit : Nat) : Proposal :=
  if pool.limit ≤ unit then .settled (.outOfPool unit)
  else if (maskOf masks slice).isSet unit then .settled .unchanged
  else match masks.findIdx? (·.isSet unit) with
    | some owner => .settled (.contested unit owner)
    | none =>
      match (maskOf masks slice).set unit with
      | .error _ => .settled (.outOfPool unit)
      | .ok (mask, _) => .write mask (.claimed unit)

/-- To release a unit of a slice, if it holds it. -/
def release (pool : Pool) (masks : List Mask) (slice unit : Nat) : Proposal :=
  if pool.limit ≤ unit then .settled (.outOfPool unit)
  else if !(maskOf masks slice).isSet unit then .settled .unchanged
  else match (maskOf masks slice).clear unit with
    | .error _ => .settled (.outOfPool unit)
    | .ok (mask, _) => .write mask (.released unit)

/-- What a verdict asks of the mask. -/
def ofVerdict (pool : Pool) (masks : List Mask) (slice unit : Nat) : Verdict → Proposal
  | .above => claim pool masks slice unit
  | .below => release pool masks slice unit
  | .within => .settled .unchanged

end Proposal

/-! ### What a rule does to the policy -/

/-- The policy that a verdict asks for. -/
def Verdict.policy? : Verdict → Option Policy
  | .above => some .waterfilling
  | .below => some .roundRobin
  | .within => none

/-- The switch of policy that a verdict asks for.  One user alone gains nothing from it. -/
def Verdict.policyChange? (v : Verdict) (policies : PolicyTable) (slice userCount : Nat) :
    Option PolicyChange :=
  match v.policy? with
  | none => none
  | some target =>
    if 1 < userCount ∧ policies.inForce slice ≠ target then
      some ⟨policies.inForce slice, target⟩
    else none

/-! ### A round -/

/-- A round under way: the store, the copies it works on, and the report so far. -/
structure Round (σ : Type) where
  store : σ
  masks : List Mask
  /-- The policies, if they could be read. -/
  policies : Option PolicyTable
  report : Report

namespace Round

variable {σ : Type} [Store σ]

/-- Carries out what a rule wants of a mask, and says what came of it. -/
def carryOut (r : Round σ) (slice unit : Nat) : Proposal → MaskChange × Round σ
  | .settled change => (change, r)
  | .write mask change =>
    match Store.writeMask r.store slice mask with
    | (.ok (), store) =>
      (change,
        { r with
          store
          masks := r.masks.set slice mask
          report := { r.report with masksWritten := r.report.masksWritten ++ [slice] } })
    | (.error e, store) =>
      (.writeFailed unit,
        { r with
          store
          report :=
            { r.report with
              incidents := r.report.incidents ++ [.store (.writingMask slice) e] } })

/-- Switches a policy in the copy. -/
def switch (r : Round σ) (slice : Nat) : Option PolicyChange → Round σ
  | none => r
  | some change =>
    { r with policies := r.policies.map fun t => t.insert slice change.current }

/-- The round with a further decision in its report. -/
def decide (r : Round σ) (d : Decision) : Round σ :=
  { r with report := { r.report with decisions := r.report.decisions ++ [d] } }

/-- Carries out one rule. -/
def obey (pool : Pool) (tenants : Nat) (snapshot : Snapshot) (r : Round σ) (rule : Rule) :
    Round σ :=
  let userCount := snapshot.userCount rule.slice
  match rule.measure tenants snapshot with
  | .error reason => r.decide ⟨rule.slice, rule.metric, userCount, .skipped reason⟩
  | .ok value =>
    let verdict := rule.threshold.classify value
    let proposal := Proposal.ofVerdict pool r.masks rule.slice rule.unit verdict
    let (mask, r) := r.carryOut rule.slice rule.unit proposal
    let policy := r.policies.bind fun t => verdict.policyChange? t rule.slice userCount
    (r.switch rule.slice policy).decide
      ⟨rule.slice, rule.metric, userCount,
        .evaluated ⟨value, rule.threshold, verdict, mask, policy⟩⟩

/-- Whether a rule switched a policy. -/
def hasSwitched (r : Round σ) : Bool :=
  r.report.decisions.any fun d => d.outcome.policyChange?.isSome

/-- Writes the policies if a rule switched one. -/
def close (r : Round σ) : Round σ :=
  match r.policies with
  | none => r
  | some policies =>
    if r.hasSwitched then
      match Store.writePolicies r.store policies with
      | (.ok (), store) => { r with store, report := { r.report with policiesWritten := true } }
      | (.error e, store) =>
        { r with
          store
          report :=
            { r.report with incidents := r.report.incidents ++ [.store .writingPolicies e] } }
    else r

end Round

/-- The controller between two rounds. -/
structure Heuristic where
  pool : Pool
  tenants : Nat
  buffer : Threshold
  throughput : Threshold
  bufferUnit : Nat
  throughputUnit : Nat
  /-- How many rounds there have been. -/
  round : Nat

namespace Heuristic

/-- The band for the buffers where the settings give none. -/
def standardBuffer : Threshold := ⟨1000.0, 2000.0⟩

/-- The band for the throughput where the settings give none. -/
def standardThroughput : Threshold := ⟨0.25, 0.75⟩

/-- The controller before its first round. -/
def ofSettings (pool : Pool) (tenants : Nat) (settings : HeuristicSettings) : Heuristic where
  pool
  tenants
  buffer := .resolve settings.thresholds HeuristicSettings.bufferKey standardBuffer
  throughput := .resolve settings.thresholds HeuristicSettings.throughputKey standardThroughput
  bufferUnit := settings.bufferUnit
  throughputUnit := settings.throughputUnit
  round := 0

/-- The rules, in the order in which they are evaluated. -/
def rules (h : Heuristic) : List Rule :=
  [⟨0, "dl_buffer [bytes]", h.buffer, h.bufferUnit⟩,
    ⟨1, "tx_brate downlink [Mbps]", h.throughput, h.throughputUnit⟩]

variable {σ : Type} [Store σ]

/-- A round on the masks that were read and the policies that were or were not. -/
def play (h : Heuristic) (snapshot : Snapshot) (r : Round σ) : Round σ :=
  (h.rules.foldl (Round.obey h.pool h.tenants snapshot) r).close

/-- Evaluates the rules on averages. -/
def evaluate (h : Heuristic) (s : σ) (snapshot : Snapshot) : Report × Heuristic × σ :=
  let next := { h with round := h.round + 1 }
  match Store.readMasks s h.tenants with
  | .error e =>
    ({ round := h.round, incidents := [.store .readingMasks e] }, next, s)
  | .ok masks =>
    let r : Round σ := match Store.readPolicies s with
      | .ok policies => ⟨s, masks, some policies, { round := h.round }⟩
      | .error e =>
        ⟨s, masks, none, { round := h.round, incidents := [.store .readingPolicies e] }⟩
    let r := h.play snapshot r
    (r.report, next, r.store)

/-- Evaluates the rules on a look at the metrics. -/
def step (h : Heuristic) (s : σ) (window : MetricsWindow) : Report × Heuristic × σ :=
  h.evaluate s window.aggregate

end Heuristic

end RanSlicing
