/-
Scheduling policies: how a slice shares its units among its users.
-/
import RanSlicing.Fault
import RanSlicing.SortedMap
import RanSlicing.Text.Blank
import RanSlicing.Text.Lowercase

namespace RanSlicing

/-- A scheduling policy. -/
inductive Policy where
  | roundRobin
  | waterfilling
  | proportional
  deriving DecidableEq, Repr, Inhabited

namespace Policy

/-- The number that stands for the policy in the policy record. -/
def code : Policy → Nat
  | .roundRobin => 0
  | .waterfilling => 1
  | .proportional => 2

/-- The policy of a number. -/
def ofCode? : Nat → Except Fault Policy
  | 0 => .ok .roundRobin
  | 1 => .ok .waterfilling
  | 2 => .ok .proportional
  | n => .error (.policyCode n)

/-- The name shown to the operator. -/
def title : Policy → String
  | .roundRobin => "round-robin"
  | .waterfilling => "waterfilling"
  | .proportional => "proportional"

/-- The name used in documents. -/
def name : Policy → String
  | .roundRobin => "round_robin"
  | .waterfilling => "waterfilling"
  | .proportional => "proportional"

/-- The policy of a name used in documents. -/
def ofName? : String → Option Policy
  | "round_robin" => some .roundRobin
  | "waterfilling" => some .waterfilling
  | "proportional" => some .proportional
  | _ => none

/-- Reads a policy as the operator may write it: its number, its name or its short name, in
capitals or small letters. -/
def ofText? (s : String) : Except Fault Policy :=
  let spelled := String.ofList (Text.lowercase (Text.trim s.toList))
  if spelled ∈ ["0", "rr", "round-robin", "round_robin"] then .ok .roundRobin
  else if spelled ∈ ["1", "wf", "waterfilling"] then .ok .waterfilling
  else if spelled ∈ ["2", "pf", "proportional"] then .ok .proportional
  else .error (.policyName spelled)

end Policy

/-- The policies of the slices that have one on record. -/
abbrev PolicyTable : Type := SliceMap Policy

namespace PolicyTable

/-- One policy for every slice below `tenants`. -/
def uniform (tenants : Nat) (p : Policy) : PolicyTable :=
  SortedMap.ofList ((List.range tenants).map fun slice => (slice, p))

/-- The table with a policy set, and whether that changed it. -/
def set (t : PolicyTable) (slice : Nat) (p : Policy) : PolicyTable × Bool :=
  (t.insert slice p, t.get? slice != some p)

/-- The policy of a slice; one without a record is served round-robin. -/
def inForce (t : PolicyTable) (slice : Nat) : Policy := (t.get? slice).getD .roundRobin

end PolicyTable

end RanSlicing
