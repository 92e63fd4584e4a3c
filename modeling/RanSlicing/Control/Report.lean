/-
What a round of a controller did.

A report says for each rule why it was passed over or what it found and did, which records were
written, and what went wrong on the way.  An incident keeps the cause it came from; its wording
names the activity, the kind of fault and the fault.
-/
import RanSlicing.Control.Threshold
import RanSlicing.Policy
import RanSlicing.Telemetry.Settings

namespace RanSlicing

open Number (natText)

/-- Why a rule was passed over. -/
inductive SkipReason where
  /-- The slice is not configured. -/
  | notConfigured
  /-- The slice has no users. -/
  | noUsers
  /-- The users of the slice do not report the metric. -/
  | missingMetric
  deriving DecidableEq, Repr

/-- The name of a reason in a report. -/
def SkipReason.name : SkipReason → String
  | .notConfigured => "not_configured"
  | .noUsers => "no_users"
  | .missingMetric => "missing_metric"

/-- What became of the unit that a rule moves. -/
inductive MaskChange where
  | unchanged
  | claimed (unit : Nat)
  | released (unit : Nat)
  /-- The unit cannot be claimed by any slice. -/
  | outOfPool (unit : Nat)
  /-- Another slice holds the unit. -/
  | contested (unit owner : Nat)
  /-- The new mask was refused by the store. -/
  | writeFailed (unit : Nat)
  deriving DecidableEq, Repr

/-- A switch of a slice's policy. -/
structure PolicyChange where
  previous : Policy
  current : Policy
  deriving DecidableEq, Repr

/-- What a rule found and did. -/
structure Evaluation where
  value : Float
  threshold : Threshold
  verdict : Verdict
  mask : MaskChange
  policy : Option PolicyChange

/-- What came of a rule. -/
inductive Outcome where
  | skipped (reason : SkipReason)
  | evaluated (found : Evaluation)

/-- The switch of policy that came of a rule. -/
def Outcome.policyChange? : Outcome → Option PolicyChange
  | .skipped _ => none
  | .evaluated found => found.policy

/-- What a round decided for one slice. -/
structure Decision where
  slice : Nat
  metric : String
  userCount : Nat
  outcome : Outcome

/-- What a controller was about when a store failed it. -/
inductive Activity where
  | readingMasks
  | readingPolicies
  | writingMask (slice : Nat)
  | writingPolicies
  | allocating (position : Nat)
  deriving DecidableEq, Repr

/-- The wording of an activity. -/
def Activity.text : Activity → String
  | .readingMasks => "reading masks"
  | .readingPolicies => "reading policies"
  | .writingMask slice => "writing mask of slice " ++ natText slice
  | .writingPolicies => "writing policies"
  | .allocating position => "allocation " ++ natText position

/-- Something that went wrong without ending the round. -/
inductive Incident where
  | store (activity : Activity) (cause : Fault)
  | metrics (cause : TelemetryFault)
  deriving DecidableEq, Repr

/-- The wording of an incident. -/
def Incident.message : Incident → String
  | .store activity cause =>
    activity.text ++ " [" ++ cause.kind.name ++ "]: " ++ cause.message
  | .metrics cause => "collecting metrics: " ++ cause.message

/-- What a round did. -/
structure Report where
  round : Nat
  decisions : List Decision := []
  masksWritten : List Nat := []
  policiesWritten : Bool := false
  incidents : List Incident := []

namespace Report

/-- Whether a record was written. -/
def changed (r : Report) : Bool := !r.masksWritten.isEmpty || r.policiesWritten

end Report

/-! ### Reports as documents -/

/-- The document of a mask change. -/
def MaskChange.toDocument (c : MaskChange) : Document :=
  let change (kind : String) (values : List (String × Nat)) :=
    Document.fields (("kind", .text kind) :: values.map fun v => (v.1, .nat v.2))
  match c with
  | .unchanged => change "unchanged" []
  | .claimed unit => change "claimed" [("index", unit)]
  | .released unit => change "released" [("index", unit)]
  | .outOfPool unit => change "out_of_pool" [("index", unit)]
  | .contested unit owner => change "contested" [("index", unit), ("owner", owner)]
  | .writeFailed unit => change "write_failed" [("index", unit)]

/-- The document of a switch of policy. -/
def PolicyChange.toDocument (c : PolicyChange) : Document :=
  .fields [("from", .text c.previous.name), ("to", .text c.current.name)]

/-- The document of what came of a rule. -/
def Outcome.toDocument : Outcome → Document
  | .skipped reason => .fields [("status", .text "skipped"), ("reason", .text reason.name)]
  | .evaluated found =>
    .fields
      [("status", .text "evaluated"),
        ("value", .fraction found.value),
        ("threshold", .fields
          [("lower", .fraction found.threshold.lower), ("upper", .fraction found.threshold.upper)]),
        ("verdict", .text found.verdict.name),
        ("mask", found.mask.toDocument),
        ("policy", .optional PolicyChange.toDocument found.policy)]

/-- The document of a decision. -/
def Decision.toDocument (d : Decision) : Document :=
  .fields
    [("slice", .nat d.slice),
      ("metric", .text d.metric),
      ("user_count", .nat d.userCount),
      ("outcome", d.outcome.toDocument)]

/-- The document of a report. -/
def Report.toDocument (r : Report) : Document :=
  .fields
    [("round", .nat r.round),
      ("decisions", .list (r.decisions.map Decision.toDocument)),
      ("masks_written", .nats r.masksWritten),
      ("policies_written", .flag r.policiesWritten),
      ("errors", .list (r.incidents.map fun i => .text i.message))]

end RanSlicing
