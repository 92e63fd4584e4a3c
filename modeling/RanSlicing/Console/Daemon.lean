/-
The daemon's command line, `sliced`: it runs the daemon, plays a single round, and writes and
checks settings.
-/
import RanSlicing.Agent
import RanSlicing.Console.Result

namespace RanSlicing.Console.Daemon

open Number (natText readWord)

/-- What the daemon is to do. -/
inductive Command where
  | run (rounds period : Option Nat)
  | once
  | writeSettings (file : Option Path)
  | validate (file : Path)

/-- A command line of the daemon. -/
structure Line where
  settingsFile : Option Path
  logLevel : Option String
  dryRun : Bool
  command : Command

/-- What the daemon puts on the output stream. -/
inductive Output where
  | text (s : String)
  | report (r : Report)
  | settings (s : AgentSettings)

/-- The text of what is put on the output stream. -/
def Output.render : Output → String
  | .text s => s
  | .report r => Json.write 0 r.toDocument ++ "\n"
  | .settings s => s.toYaml ++ "\n"

/-- What a command leaves behind. -/
structure Result where
  exit : Nat
  output : Output
  err : String := ""
  files : FileTree

/-! ### Reading the command line -/

/-- Whether a text is an unsigned integer. -/
def isWord (s : String) : Bool := (readWord s.toList).toOption.isSome

/-- Whether a text can be a path. -/
def isPath (s : String) : Bool := s ≠ ""

/-- The option that names the settings file. -/
def fileOption : OptionSpec :=
  { name := "config", letter := 'c', accepts := isPath, valueName := "FILE"
    about := "Configuration file path" }

/-- The option that sets the log level. -/
def levelOption : OptionSpec :=
  { name := "log-level", accepts := some fun _ => true, valueName := "LEVEL", about := "Log level" }

/-- The option that leaves the record files alone. -/
def dryRunOption : OptionSpec :=
  { name := "dry-run", about := "Keep records in memory instead of writing the record directory" }

/-- The options that stand before or behind the command. -/
def options : List OptionSpec := [fileOption, levelOption, dryRunOption]

/-- The command line of each command. -/
def commands : List Grammar :=
  [{ name := "sliced run", about := "Run the control loop until interrupted"
     options :=
      [fileOption,
        { name := "rounds", accepts := isWord, valueName := "ROUNDS"
          about := "Stop after this many iterations" },
        levelOption,
        { name := "period", accepts := isWord, valueName := "SECONDS"
          about := "Override the iteration period" },
        dryRunOption] },
    { name := "sliced once", about := "Run a single iteration and print its report"
      options },
    { name := "sliced config", about := "Generate default configuration"
      options :=
        [fileOption,
          { name := "output", letter := 'o', accepts := isPath, valueName := "OUTPUT"
            about := "Output file path" },
          levelOption, dryRunOption] },
    { name := "sliced validate", about := "Validate configuration"
      options :=
        [{ name := "config", letter := 'c', accepts := isPath, valueName := "CONFIG"
           about := "Configuration file to validate", required := true },
          levelOption, dryRunOption] }]

/-- The name of a command without that of the daemon. -/
def commandName (g : Grammar) : String := String.ofList (g.name.toList.drop "sliced ".length)

/-- The command line of the daemon. -/
def grammar : Grammar where
  name := "sliced"
  about := "Adaptive RBG slicing controller"
  options := options
  commands := commands.map fun g => (commandName g, g.about)
  commandOptional := true
  version := some version

/-- The number of an option. -/
def number? (a : Arguments) (name : String) : Option Nat :=
  (a.value? name).bind fun s => (readWord s.toList).toOption

/-- The command that options ask for. -/
def commandOf (name : String) (a : Arguments) : Except Stop Command :=
  match name with
  | "once" => .ok .once
  | "config" => .ok (.writeSettings ((a.value? "output").map Path.mk))
  | "validate" =>
    match a.value? "config" with
    | some file => .ok (.validate ⟨file⟩)
    | none => .error .usage
  | _ => .ok (.run (number? a "rounds") (number? a "period"))

/-- Reads a command line.  Without a command the daemon runs; an option behind the command
outweighs the same one before it. -/
def readLine (args : List String) : Except (Grammar × Stop) Line := do
  let outer ← (grammar.read args).mapError fun stop => (grammar, stop)
  let (inner, command) : Arguments × Command ← match outer.command with
    | none => .ok ({}, .run none none)
    | some name => do
      let g := (commands.find? fun g => commandName g = name).getD grammar
      let inner ← (g.read outer.rest).mapError fun stop => (g, stop)
      let command ← (commandOf name inner).mapError fun stop => (g, stop)
      .ok (inner, command)
  let value? (name : String) := (inner.value? name).or (outer.value? name)
  .ok
    { settingsFile := (value? "config").map Path.mk
      logLevel := value? "log-level"
      dryRun := (value? "dry-run").isSome
      command }

/-! ### Reasons -/

/-- A fault in terse words, the kind around the reason. -/
def terseFault (f : Fault) : String :=
  match f.kind with
  | .configuration => "InvalidConfiguration(" ++ Text.quoted f.reason ++ ")"
  | .invalidRequest => "InvalidRequest(" ++ Text.quoted f.reason ++ ")"
  | .invalidMask => "InvalidMask(" ++ Text.quoted f.reason ++ ")"
  | .invalidPolicy => "InvalidPolicy(" ++ Text.quoted f.reason ++ ")"
  | .persistence => "Persistence(" ++ Text.quoted f.reason ++ ")"
  | .system => "Io(" ++ f.reason ++ ")"
  | .json => "Json(" ++ f.reason ++ ")"
  | .yaml => "Yaml(" ++ f.reason ++ ")"
  | .settings => "Config(" ++ f.reason ++ ")"
  | .other => "Other(" ++ f.reason ++ ")"

/-- A fault of the metrics in terse words. -/
def terseTelemetry (f : TelemetryFault) : String :=
  match f with
  | .core cause => "Core(" ++ terseFault cause ++ ")"
  | _ =>
    match f.kind with
    | .configuration => "Configuration(" ++ Text.quoted f.reason ++ ")"
    | .unavailable => "Unavailable(" ++ Text.quoted f.reason ++ ")"
    | .malformed => "Malformed(" ++ Text.quoted f.reason ++ ")"
    | .system => "Io(" ++ f.reason ++ ")"
    | .core => "Core(" ++ f.reason ++ ")"

/-- Why the daemon does not run, in terse words. -/
def terse : AgentFault → String
  | .core cause => "Core(" ++ terseFault cause ++ ")"
  | .telemetry cause => "Telemetry(" ++ terseTelemetry cause ++ ")"
  | fault => "Config(" ++ Text.quoted fault.reason ++ ")"

/-! ### Carrying it out -/

/-- The settings of the file or of the standard places, with what the command line says
instead. -/
def settings (line : Line) (call : Invocation) : Except AgentFault AgentSettings := do
  let s ← match line.settingsFile with
    | some p => AgentSettings.ofFile call.files p
    | none => AgentSettings.ofEnvironment call.files call.env
  .ok
    { s with
      logging := { s.logging with level := line.logLevel.getD s.logging.level }
      agent := { s.agent with dryRun := line.dryRun || s.agent.dryRun } }

/-- A command that failed after it had put a text on the output stream. -/
def failure (out : String) (fault : AgentFault) (files : FileTree) : Result :=
  { exit := 1, output := .text out, err := "Error: " ++ terse fault ++ "\n", files }

/-- What there is to say about sound settings. -/
def summary (s : AgentSettings) : List String :=
  let slicing := s.slicing
  ["Configuration is valid",
    "Agent name: " ++ s.agent.name,
    "Tenants: " ++ natText slicing.tenants,
    "Pool: " ++ natText slicing.pool.size ++ " units (limit " ++ natText slicing.pool.limit ++ ")",
    "Record directory: " ++ slicing.records.directory.text,
    "Period: " ++ natText s.agent.periodSeconds ++ "s"] ++
  match s.agent.mode with
  | .heuristic =>
    ["Mode: heuristic",
      "  - Metrics directory: " ++ s.telemetry.directory.text,
      "  - Buffer unit: " ++ natText s.heuristic.bufferUnit,
      "  - Throughput unit: " ++ natText s.heuristic.throughputUnit]
  | .rotation =>
    ["Mode: rotation (" ++ natText s.rotation.allocations.length ++ " allocations)"]

/-- Lines of text. -/
def unlines (lines : List String) : String := String.join (lines.map (· ++ "\n"))

/-- Checks settings and sums them up. -/
def validate (file : Path) (files : FileTree) : Result :=
  let begun := unlines ["Validating configuration: " ++ file.text]
  match AgentSettings.ofFile files file with
  | .error e => failure begun e files
  | .ok s =>
    match s.validate with
    | .error e => failure begun e files
    | .ok () => { exit := 0, output := .text (begun ++ unlines (summary s)), files }

/-- Writes the standard settings, to a file or to the output stream. -/
def writeSettings (file : Option Path) (files : FileTree) : Result :=
  match file with
  | none => { exit := 0, output := .settings .standard, files }
  | some p =>
    match AgentSettings.standard.toFile files p with
    | .error e => failure "" e files
    | .ok files =>
      { exit := 0
        output := .text (unlines ["Generated configuration file: " ++ p.text])
        files }

/-- What a command line leads to: it is done with, or a daemon is to be run. -/
inductive Action where
  | finished (r : Result)
  | serve (a : Agent Backend)

/-- What a command line leads to. -/
def act (call : Invocation) : Action :=
  let files := call.files
  match readLine call.args with
  | .error (g, stop) =>
    let r := Console.Result.stopped g commands stop files
    .finished { exit := r.exit, output := .text r.transcript.out, files }
  | .ok line =>
    match line.command with
    | .writeSettings file => .finished (writeSettings file files)
    | .validate file => .finished (validate file files)
    | .once =>
      match settings line call with
      | .error e => .finished (failure "" e files)
      | .ok s =>
        match s.build files none none with
        | .error e => .finished (failure "" e files)
        | .ok a =>
          let (report, a) := a.runOnce files
          .finished { exit := 0, output := .report report, files := a.store.tree }
    | .run rounds period =>
      match settings line call with
      | .error e => .finished (failure "" e files)
      | .ok s =>
        let s : AgentSettings :=
          { s with
            agent :=
              { s.agent with
                maxRounds := rounds.or s.agent.maxRounds
                periodSeconds := period.getD s.agent.periodSeconds } }
        match s.build files none none with
        | .error e => .finished (failure "" e files)
        | .ok a => .serve a

/-- What a daemon leaves behind that ran to its last round. -/
def serveAll (a : Agent Backend) : Result :=
  match a.runUntil Backend.tree none with
  | (.error _, a) => { exit := 1, output := .text "", files := a.store.tree }
  | (.ok (), a) => { exit := 0, output := .text "", files := a.store.tree }

/-- Runs a command line to its end. -/
def run (call : Invocation) : Result :=
  match act call with
  | .finished r => r
  | .serve a => serveAll a

end RanSlicing.Console.Daemon
