/-
What can go wrong with masks, policies, requests and their records.

A fault is a cause with the values it is about.  Its kind, its wording and whether trying again
can help are read off the cause, so no two places word the same fault differently.
-/
import RanSlicing.Number.Integer
import RanSlicing.Text.Quoted
import RanSlicing.FileTree.Basic

namespace RanSlicing

open Number (natText IntegerError)

/-- The kinds of faults. -/
inductive FaultKind where
  | configuration
  | invalidRequest
  | invalidMask
  | invalidPolicy
  | persistence
  | system
  | json
  | yaml
  | settings
  | other
  deriving DecidableEq, Repr

/-- The kind as a report names it. -/
def FaultKind.name : FaultKind → String
  | .configuration => "configuration"
  | .invalidRequest => "invalid_request"
  | .invalidMask => "invalid_mask"
  | .invalidPolicy => "invalid_policy"
  | .persistence => "persistence"
  | .system => "io"
  | .json => "json"
  | .yaml => "yaml"
  | .settings => "config"
  | .other => "other"

/-- What a message of the kind begins with. -/
def FaultKind.heading : FaultKind → String
  | .configuration => "Configuration error: "
  | .invalidRequest => "Invalid request: "
  | .invalidMask => "Invalid mask: "
  | .invalidPolicy => "Invalid policy: "
  | .persistence => "Persistence error: "
  | .system => "I/O error: "
  | .json => "JSON error: "
  | .yaml => "YAML error: "
  | .settings => "Config error: "
  | .other => "Error: "

/-- The cause of a fault. -/
inductive Fault where
  -- settings that do not fit together
  | emptyPool
  | limitBeyondPool (limit size : Nat)
  | tenantCount (tenants most : Nat)
  | poolTooSmall (limit tenants : Nat)
  | noMaskPrefix
  | noPolicyFile
  | noTenants
  | tooFewUnits (limit tenants : Nat)
  -- requests
  | sliceNotConfigured (slice tenants : Nat)
  | rangeNotConfigured (slice tenants : Nat)
  | rangeText (text : String) (cause : IntegerError)
  -- masks
  | unitOutside (unit width : Nat)
  | maskCharacter (c : Char) (position : Nat)
  | maskWidth (mask : String) (width size : Nat)
  | maskRecord (path : Path) (cause : Fault)
  -- policies
  | policyCode (code : Nat)
  | policyName (name : String)
  | policyLine (line : String)
  | policySliceText (text : String)
  | policyCodeText (text : String)
  | policyRecord (path : Path) (line : Nat) (cause : Fault)
  -- records
  | maskRejected
  | policyRejected
  | unreadable (path : Path) (cause : SystemError)
  | unwritable (path : Path) (cause : SystemError)
  -- everything else
  | refused (cause : SystemError)
  | reported (kind : FaultKind) (reason : String)
  | within (context : String) (cause : Fault)
  deriving DecidableEq, Repr

namespace Fault

/-- The kind of a fault. -/
def kind : Fault → FaultKind
  | .emptyPool | .limitBeyondPool .. | .tenantCount .. | .poolTooSmall .. | .noMaskPrefix
  | .noPolicyFile | .noTenants | .tooFewUnits .. => .configuration
  | .sliceNotConfigured .. | .rangeNotConfigured .. | .rangeText .. => .invalidRequest
  | .unitOutside .. | .maskCharacter .. | .maskWidth .. | .maskRecord .. => .invalidMask
  | .policyCode .. | .policyName .. | .policyLine .. | .policySliceText .. | .policyCodeText ..
  | .policyRecord .. => .invalidPolicy
  | .maskRejected | .policyRejected | .unreadable .. | .unwritable .. => .persistence
  | .refused .. => .system
  | .reported kind _ => kind
  | .within .. => .other

/-- Whether the fault may be gone when the same is tried again. -/
def isTransient (f : Fault) : Bool :=
  match f.kind with
  | .persistence | .system => true
  | _ => false

/-- The wording without the heading of the kind. -/
def reason : Fault → String
  | .emptyPool => "Resource pool size must be > 0"
  | .limitBeyondPool limit size =>
    "Resource pool limit " ++ natText limit ++ " exceeds pool size " ++ natText size
  | .tenantCount tenants most =>
    "Tenant count must be in 1..=" ++ natText most ++ ", got " ++ natText tenants
  | .poolTooSmall limit tenants =>
    "Pool of " ++ natText limit ++ " claimable units cannot serve " ++ natText tenants ++ " tenants"
  | .noMaskPrefix => "Mask file prefix cannot be empty"
  | .noPolicyFile => "Policy file name cannot be empty"
  | .noTenants => "Equal allocation needs at least one tenant"
  | .tooFewUnits limit tenants =>
    "Cannot split " ++ natText limit ++ " claimable units among " ++ natText tenants ++ " tenants"
  | .sliceNotConfigured slice tenants =>
    "Slice " ++ natText slice ++ " is not configured (" ++ natText tenants ++ " tenants)"
  | .rangeNotConfigured slice tenants =>
    "Range given for slice " ++ natText slice ++ " but only " ++ natText tenants ++
      " tenants are configured"
  | .rangeText text cause => "invalid range " ++ Text.quoted text ++ ": " ++ cause.message
  | .unitOutside unit width =>
    "index " ++ natText unit ++ " outside mask of width " ++ natText width
  | .maskCharacter c position =>
    "unexpected character " ++ Text.quotedChar c ++ " at position " ++ natText position
  | .maskWidth mask width size =>
    "mask " ++ mask ++ " has " ++ natText width ++ " units, pool has " ++ natText size
  | .maskRecord path cause => path.text ++ ": " ++ cause.kind.heading ++ cause.reason
  | .policyCode code => "unknown policy code " ++ natText code
  | .policyName name => "unknown policy " ++ Text.quoted name
  | .policyLine line => "expected `slice::code`, got '" ++ line ++ "'"
  | .policySliceText text => "invalid slice id '" ++ text ++ "'"
  | .policyCodeText text => "invalid policy code '" ++ text ++ "'"
  | .policyRecord path line cause =>
    path.text ++ ":" ++ natText line ++ ": " ++ cause.kind.heading ++ cause.reason
  | .maskRejected => "Mask write rejected"
  | .policyRejected => "Policy write rejected"
  | .unreadable path cause => "Failed to read " ++ path.text ++ ": " ++ cause.message
  | .unwritable path cause => "Failed to write " ++ path.text ++ ": " ++ cause.message
  | .refused cause => cause.message
  | .reported _ reason => reason
  | .within context cause => context ++ ": " ++ cause.kind.heading ++ cause.reason

/-- The wording of a fault. -/
def message (f : Fault) : String := f.kind.heading ++ f.reason

end Fault

end RanSlicing
