/-
Where the metrics of the users lie, and how much of them one look takes in.
-/
import RanSlicing.Fault

namespace RanSlicing

open Number (natText wordMax)

/-- The kinds of faults of the metrics. -/
inductive TelemetryFaultKind where
  | configuration
  | unavailable
  | malformed
  | system
  | core
  deriving DecidableEq, Repr

/-- The kind as an answer names it. -/
def TelemetryFaultKind.name : TelemetryFaultKind → String
  | .configuration => "configuration"
  | .unavailable => "unavailable"
  | .malformed => "malformed"
  | .system => "io"
  | .core => "core"

/-- Why the metrics of one user cannot be used. -/
inductive TableFault where
  | noSliceColumn
  | sliceCell (cell : String)
  deriving DecidableEq, Repr

/-- What can go wrong with the metrics. -/
inductive TelemetryFault where
  | emptyWindow
  | windowTooLarge (seconds rowsPerSecond : Nat)
  | noDirectory (directory : Path) (cause : SystemError)
  | table (path : Path) (cause : TableFault)
  | unreadable (cause : SystemError)
  | core (cause : Fault)
  | reported (kind : TelemetryFaultKind) (reason : String)
  deriving DecidableEq, Repr

/-- The wording of a fault in a table. -/
def TableFault.message : TableFault → String
  | .noSliceColumn => "missing 'slice_id' column"
  | .sliceCell cell => "invalid slice id '" ++ cell ++ "'"

namespace TelemetryFault

/-- The kind of a fault. -/
def kind : TelemetryFault → TelemetryFaultKind
  | .emptyWindow | .windowTooLarge .. => .configuration
  | .noDirectory .. => .unavailable
  | .table .. => .malformed
  | .unreadable _ => .system
  | .core _ => .core
  | .reported kind _ => kind

/-- Whether the fault may be gone when the same is tried again. -/
def isRetryable (f : TelemetryFault) : Bool :=
  match f.kind with
  | .unavailable | .malformed | .system => true
  | .configuration | .core => false

/-- What a message of the kind begins with. -/
def heading : TelemetryFaultKind → String
  | .configuration => "Configuration error: "
  | .unavailable => "Metrics directory unavailable: "
  | .malformed => "Malformed metrics file: "
  | .system => "IO error: "
  | .core => "Core error: "

/-- The wording without the heading of the kind. -/
def reason : TelemetryFault → String
  | .emptyWindow => "Metrics window must cover at least one row"
  | .windowTooLarge seconds rows =>
    "Metrics window of " ++ natText seconds ++ "s at " ++ natText rows ++ " rows/s is too large"
  | .noDirectory directory cause => directory.text ++ ": " ++ cause.message
  | .table path cause => path.text ++ ": " ++ cause.message
  | .unreadable cause => cause.message
  | .core cause => cause.message
  | .reported _ reason => reason

/-- The wording of a fault. -/
def message (f : TelemetryFault) : String := heading f.kind ++ f.reason

end TelemetryFault

/-- Where the metrics lie and which of their rows count. -/
structure TelemetrySettings where
  directory : Path
  windowSeconds : Nat
  rowsPerSecond : Nat
  /-- The fewest bytes of a name that is taken for a user. -/
  minUserIdLength : Nat
  deriving DecidableEq, Repr, Inhabited

namespace TelemetrySettings

/-- The settings that fit the radio stack. -/
def standard : TelemetrySettings where
  directory := ⟨"/root/radio_code/scope_config/metrics/csv"⟩
  windowSeconds := 10
  rowsPerSecond := 4
  minUserIdLength := 10

/-- The rows of the window, if their number fits a machine word. -/
def windowRows? (s : TelemetrySettings) : Option Nat :=
  let rows := s.windowSeconds * s.rowsPerSecond
  if rows ≤ wordMax then some rows else none

/-- The rows of the window. -/
def windowRows (s : TelemetrySettings) : Nat := s.windowRows?.getD wordMax

/-- Checks that the window has rows and is not too large to count. -/
def validate (s : TelemetrySettings) : Except TelemetryFault Unit :=
  match s.windowRows? with
  | none => .error (.windowTooLarge s.windowSeconds s.rowsPerSecond)
  | some 0 => .error .emptyWindow
  | some _ => .ok ()

end TelemetrySettings

end RanSlicing
