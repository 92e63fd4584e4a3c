/-
The settings of the daemon.

The slicing settings stand at the root of the document, beside one section for each part of the
daemon.  The sections for the metrics and the controllers may be missing.
-/
import RanSlicing.Document.Yaml.Reader
import RanSlicing.Document.Yaml.Writer
import RanSlicing.Settings.Control
import RanSlicing.Settings.Sources

namespace RanSlicing

/-! ### What can go wrong with the daemon -/

/-- What can go wrong before the daemon runs. -/
inductive AgentFault where
  | unreadable (cause : SystemError)
  | unparsable
  | unwritable (cause : SystemError)
  | noName
  | noPeriod
  | noAllocations
  | logLevel (level : String)
  | logFormat (format : String)
  | core (cause : Fault)
  | telemetry (cause : TelemetryFault)
  deriving DecidableEq, Repr

namespace AgentFault

/-- The wording of a fault in the settings themselves. -/
def reason : AgentFault → String
  | .unreadable cause => "Failed to read config file: " ++ cause.message
  | .unparsable => "Failed to parse config: "
  | .unwritable cause => "Failed to write config file: " ++ cause.message
  | .noName => "Agent name cannot be empty"
  | .noPeriod => "Iteration period must be greater than 0"
  | .noAllocations => "Rotation mode needs at least one allocation"
  | .logLevel level => "Invalid log level: " ++ level
  | .logFormat format => "Invalid log format: " ++ format
  | .core cause => cause.message
  | .telemetry cause => cause.message

/-- The wording of a fault. -/
def message : AgentFault → String
  | .core cause => "Core error: " ++ cause.message
  | .telemetry cause => "Telemetry error: " ++ cause.message
  | fault => "Configuration error: " ++ fault.reason

end AgentFault

/-! ### The sections -/

/-- Which controller the daemon runs. -/
inductive ControllerMode where
  | heuristic
  | rotation
  deriving DecidableEq, Repr, Inhabited

/-- The name of a mode. -/
def ControllerMode.name : ControllerMode → String
  | .heuristic => "heuristic"
  | .rotation => "rotation"

/-- How the daemon runs. -/
structure AgentOptions where
  name : String
  periodSeconds : Nat
  mode : ControllerMode
  /-- What is requested of the partition before the first round, if the load is followed. -/
  initialAllocation : Option Request
  /-- Records are kept in memory. -/
  dryRun : Bool
  maxRounds : Option Nat
  deriving DecidableEq, Repr

namespace AgentOptions

/-- A round a minute, without end. -/
def standard : AgentOptions where
  name := "sliced"
  periodSeconds := 60
  mode := .heuristic
  initialAllocation := none
  dryRun := false
  maxRounds := none

/-- The document of the options. -/
def toDocument (o : AgentOptions) : Document :=
  .fields
    [("name", .text o.name),
      ("period_seconds", .nat o.periodSeconds),
      ("mode", .text o.mode.name),
      ("initial_allocation", .optional Request.toDocument o.initialAllocation),
      ("dry_run", .flag o.dryRun),
      ("max_rounds", .optional .nat o.maxRounds)]

/-- The options of a document. -/
def ofDocument? (dialect : Dialect) (d : Document) : Option AgentOptions := do
  let entries ← dialect.fields
    ["name", "period_seconds", "mode", "initial_allocation", "dry_run", "max_rounds"] d
  let modes := [ControllerMode.heuristic, .rotation].map fun m => (m.name, m)
  some
    { name := ← Dialect.required entries "name" dialect.text
      periodSeconds := ← Dialect.required entries "period_seconds" dialect.nat
      mode := ← Dialect.required entries "mode" (dialect.unitChoice modes)
      initialAllocation :=
        ← Dialect.defaulted entries "initial_allocation"
          (dialect.optional (Request.ofDocument? dialect)) none
      dryRun := ← Dialect.defaulted entries "dry_run" dialect.flag false
      maxRounds := ← Dialect.defaulted entries "max_rounds" (dialect.optional dialect.nat) none }

end AgentOptions

/-- How the daemon logs. -/
structure LoggingSettings where
  level : String
  format : String
  showTarget : Bool
  showThreadIds : Bool
  showLineNumbers : Bool
  deriving DecidableEq, Repr

namespace LoggingSettings

/-- The logging of a daemon that is not configured otherwise. -/
def standard : LoggingSettings := ⟨"info", "text", true, false, false⟩

/-- The levels that can be asked for. -/
def levels : List String := ["trace", "debug", "info", "warn", "error"]

/-- The formats that can be asked for. -/
def formats : List String := ["text", "json"]

/-- The document of the settings. -/
def toDocument (s : LoggingSettings) : Document :=
  .fields
    [("level", .text s.level),
      ("format", .text s.format),
      ("show_target", .flag s.showTarget),
      ("show_thread_ids", .flag s.showThreadIds),
      ("show_line_numbers", .flag s.showLineNumbers)]

/-- The settings of a document. -/
def ofDocument? (dialect : Dialect) (d : Document) : Option LoggingSettings := do
  let entries ← dialect.fields
    ["level", "format", "show_target", "show_thread_ids", "show_line_numbers"] d
  some
    { level := ← Dialect.required entries "level" dialect.text
      format := ← Dialect.required entries "format" dialect.text
      showTarget := ← Dialect.required entries "show_target" dialect.flag
      showThreadIds := ← Dialect.required entries "show_thread_ids" dialect.flag
      showLineNumbers := ← Dialect.required entries "show_line_numbers" dialect.flag }

end LoggingSettings

/-! ### All settings of the daemon -/

/-- The settings of the daemon. -/
structure AgentSettings where
  slicing : SlicingSettings
  agent : AgentOptions
  telemetry : TelemetrySettings
  heuristic : HeuristicSettings
  rotation : RotationSettings
  logging : LoggingSettings

namespace AgentSettings

/-- The settings of a daemon that is not configured otherwise. -/
def standard : AgentSettings where
  slicing := .standard
  agent := .standard
  telemetry := .standard
  heuristic := .standard
  rotation := .standard
  logging := .standard

/-- Checks the numbers, the names and the modes of the settings. The requests among them meet the cell only
when they are carried out. -/
def validate (s : AgentSettings) : Except AgentFault Unit := do
  s.slicing.validate.mapError .core
  s.telemetry.validate.mapError .telemetry
  if s.agent.name = "" then .error .noName
  if s.agent.periodSeconds = 0 then .error .noPeriod
  if s.agent.mode = .rotation ∧ s.rotation.allocations = [] then .error .noAllocations
  if s.logging.level ∉ LoggingSettings.levels then .error (.logLevel s.logging.level)
  if s.logging.format ∉ LoggingSettings.formats then .error (.logFormat s.logging.format)

/-- The document of the settings. -/
def toDocument (s : AgentSettings) : Document :=
  .fields (s.slicing.toEntries ++
    [("agent", s.agent.toDocument),
      ("telemetry", s.telemetry.toDocument),
      ("heuristic", s.heuristic.toDocument),
      ("rotation", s.rotation.toDocument),
      ("logging", s.logging.toDocument)])

/-- The sections beside the slicing settings. -/
def sections : List String := ["agent", "telemetry", "heuristic", "rotation", "logging"]

/-- The settings of a document, which has to be a table.  What is not in a section is read as
typed values. -/
def ofDocument? (dialect : Dialect) (d : Document) : Option AgentSettings := do
  let entries ← match d with
    | .table entries => some entries
    | _ => none
  let root ← (entries.filter fun e => !sections.contains e.1.text).mapM fun (key, value) => do
    some (key, ← dialect.any value)
  some
    { slicing := ← SlicingSettings.ofEntries? .typed root
      agent := ← Dialect.required entries "agent" (AgentOptions.ofDocument? dialect)
      telemetry :=
        ← Dialect.defaulted entries "telemetry" (TelemetrySettings.ofDocument? dialect) .standard
      heuristic :=
        ← Dialect.defaulted entries "heuristic" (HeuristicSettings.ofDocument? dialect) .standard
      rotation :=
        ← Dialect.defaulted entries "rotation" (RotationSettings.ofDocument? dialect) .standard
      logging := ← Dialect.required entries "logging" (LoggingSettings.ofDocument? dialect) }

/-- The settings of a text in YAML. -/
def ofYaml? (content : String) : Option AgentSettings := do
  match ← Yaml.read content with
  | none => none
  | some d => ofDocument? .yaml d

/-- The settings of a file. -/
def ofFile (files : FileTree) (p : Path) : Except AgentFault AgentSettings :=
  match files.readText p with
  | .error e => .error (.unreadable e)
  | .ok content =>
    match ofYaml? content with
    | none => .error .unparsable
    | some s => .ok s

/-- The settings in YAML. -/
def toYaml (s : AgentSettings) : String := Yaml.write s.toDocument

/-- Writes the settings to a file. -/
def toFile (s : AgentSettings) (files : FileTree) (p : Path) : Except AgentFault FileTree :=
  (files.writeText p s.toYaml).mapError .unwritable

/-- Standard settings but for the slicing, which comes from the standard places and the
environment. -/
def ofEnvironment (files : FileTree) (env : Environment) : Except AgentFault AgentSettings :=
  match SlicingSettings.ofEnvironment files env with
  | .ok slicing => .ok { standard with slicing }
  | .error e => .error (.core e)

end AgentSettings

end RanSlicing
