/-
What an operator asks of a store, and the slices as they are shown afterwards.

Each function does one thing to the store and answers with what there is to show.  It says
nothing about how that is shown.
-/
import RanSlicing.Allocation.Relative
import RanSlicing.Allocation.Request
import RanSlicing.Console.Runs
import RanSlicing.Document.Requests

namespace RanSlicing

open Number (natText)

/-- A slice as it is shown: its mask and its policy, if one is on record. -/
structure SliceView where
  slice : Nat
  policy : Option Policy
  mask : Mask
  deriving DecidableEq, Repr

namespace SliceView

/-- The document of a view. -/
def toDocument (v : SliceView) : Document :=
  .fields
    [("slice", .nat v.slice),
      ("policy", .optional Policy.toDocument v.policy),
      ("units", .nat v.mask.count),
      ("runs", .text v.mask.runsText),
      ("mask", v.mask.toDocument)]

end SliceView

namespace Operator

variable {σ : Type} [Store σ]

/-- The views of some masks. -/
def views (s : σ) (masks : SliceMap Mask) : Except Fault (List SliceView) := do
  let policies ← Store.readPolicies s
  .ok (masks.entries.map fun (slice, mask) => ⟨slice, policies.get? slice, mask⟩)

/-- The views of all slices. -/
def allViews (s : σ) (tenants : Nat) : Except Fault (List SliceView) := do
  views s (SliceMap.ofMasks (← Store.readMasks s tenants))

/-- Carries out a request and answers with the views of the masks it wrote. -/
def apply (pool : Pool) (tenants : Nat) (s : σ) (request : Request) :
    Except Fault (List SliceView) × σ :=
  match Allocation.apply pool tenants s request with
  | (.ok written, s) => (views s written, s)
  | (.error e, s) => (.error e, s)

/-- Sets a policy, and answers with the one in force before if that changed anything. -/
def updatePolicy (s : σ) (slice : Nat) (policy : Policy) : Except Fault (Option Policy) × σ :=
  match Store.readPolicies s with
  | .error e => (.error e, s)
  | .ok policies =>
    match policies.set slice policy with
    | (_, false) => (.ok none, s)
    | (table, true) =>
      match Store.writePolicies s table with
      | (.ok (), s) => (.ok (some (policies.inForce slice)), s)
      | (.error e, s) => (.error e, s)

/-- What became of a slice that was to have a number of units. -/
structure SliceChange where
  view : SliceView
  outcome : AdjustOutcome
  /-- The policy before, if it was changed. -/
  previous : Option Policy
  deriving DecidableEq, Repr

/-- Moves a slice to a number of units. -/
def resizeSlice (pool : Pool) (tenants : Nat) (s : σ) (slice units : Nat)
    (previous : Option Policy) : Except Fault SliceChange × σ :=
  match Allocation.adjustSlice pool tenants s slice units with
  | (.error e, s) => (.error e, s)
  | (.ok adjustment, s) =>
    match Store.readPolicies s with
    | .error e => (.error e, s)
    | .ok policies =>
      (.ok ⟨⟨slice, policies.get? slice, adjustment.mask⟩, adjustment.outcome, previous⟩, s)

/-- Sets the policy of a slice if one is given, then moves the slice to a number of units.  The
policy of a slice that is not configured is left alone. -/
def setSlice (pool : Pool) (tenants : Nat) (s : σ) (slice units : Nat) (policy : Option Policy) :
    Except Fault SliceChange × σ :=
  match policy with
  | none => resizeSlice pool tenants s slice units none
  | some policy =>
    if slice < tenants then
      match updatePolicy s slice policy with
      | (.error e, s) => (.error e, s)
      | (.ok previous, s) => resizeSlice pool tenants s slice units previous
    else resizeSlice pool tenants s slice units none

/-- Why policies were not set. -/
inductive PolicyFault where
  | notConfigured (slice tenants : Nat)
  | store (cause : Fault)
  deriving DecidableEq, Repr

/-- The wording of policies that were not set. -/
def PolicyFault.message : PolicyFault → String
  | .notConfigured slice tenants =>
    "Slice " ++ natText slice ++ " is not configured (" ++ natText tenants ++ " tenants)"
  | .store cause => cause.message

/-- The table with policies set in order, and whether one of them changed it. -/
def assignAll (table : PolicyTable) (assignments : List (Nat × Policy)) : PolicyTable × Bool :=
  assignments.foldl
    (fun (table, changed) (slice, policy) =>
      let (table, now) := table.set slice policy
      (table, changed || now))
    (table, false)

/-- Sets policies.  The record is written once, and only if one of them changed it; the answer is
whether it was. -/
def setPolicies (tenants : Nat) (s : σ) (assignments : List (Nat × Policy)) :
    Except PolicyFault Bool × σ :=
  match assignments.find? fun a => tenants ≤ a.1 with
  | some (slice, _) => (.error (.notConfigured slice tenants), s)
  | none =>
    match Store.readPolicies s with
    | .error e => (.error (.store e), s)
    | .ok policies =>
      match assignAll policies assignments with
      | (_, false) => (.ok false, s)
      | (table, true) =>
        match Store.writePolicies s table with
        | (.ok (), s) => (.ok true, s)
        | (.error e, s) => (.error (.store e), s)

end Operator

end RanSlicing
