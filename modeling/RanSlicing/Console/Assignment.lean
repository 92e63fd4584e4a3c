/-
What an operator assigns to a slice on the command line: a range of units, or a policy.
-/
import RanSlicing.Policy
import RanSlicing.Range

namespace RanSlicing

/-- Why an assignment cannot be read. -/
inductive AssignmentFault where
  | noRange (text : String)
  | noPolicy (text : String)
  | slice (text : String)
  | value (cause : Fault)
  deriving DecidableEq, Repr

/-- The wording of an assignment that cannot be read. -/
def AssignmentFault.message : AssignmentFault → String
  | .noRange text => "expected SLICE=MIN-MAX, got '" ++ text ++ "'"
  | .noPolicy text => "expected SLICE=POLICY, got '" ++ text ++ "'"
  | .slice text => "invalid slice id '" ++ text ++ "'"
  | .value cause => cause.message

namespace Assignment

/-- Reads a slice, an equals sign and a value; `missing` is the fault of a text without the
sign. -/
def read {α : Type} (missing : String → AssignmentFault) (readValue : String → Except Fault α)
    (s : String) : Except AssignmentFault (Nat × α) :=
  match Text.splitOnce ['='] s.toList with
  | none => .error (missing s)
  | some (before, after) =>
    let name := Text.trim before
    match Number.readWord name with
    | .error _ => .error (.slice (String.ofList name))
    | .ok slice =>
      match readValue (String.ofList (Text.trim after)) with
      | .error e => .error (.value e)
      | .ok value => .ok (slice, value)

/-- Reads the range of a slice. -/
def readRange (s : String) : Except AssignmentFault (Nat × Range) := read .noRange Range.ofText? s

/-- Reads the policy of a slice. -/
def readPolicy (s : String) : Except AssignmentFault (Nat × Policy) :=
  read .noPolicy Policy.ofText? s

end Assignment

end RanSlicing
