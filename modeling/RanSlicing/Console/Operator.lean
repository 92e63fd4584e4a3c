/-
The operator's tool, `slicectl`: it inspects and changes masks and policies in the record files.
-/
import RanSlicing.Console.Assignment
import RanSlicing.Console.Result
import RanSlicing.Settings.Sources

namespace RanSlicing.Console.Operator

open RanSlicing.Operator
open Number (natText readWord)

/-- What the operator wants done. -/
inductive Command where
  | equal
  | range (ranges : SliceMap Range)
  | setMask (slice : Nat) (mask : Mask)
  | relative (slice units : Nat) (policy : Option Policy)
  | setPolicy (assignments : List (Nat × Policy))
  | inspect

/-- A command line of the operator. -/
structure Line where
  settingsFile : Option Path
  directory : Option Path
  tenants : Option Nat
  uplink : Bool
  form : OutputForm
  command : Command

/-! ### Reading the command line -/

/-- Whether a text is an unsigned integer. -/
def isWord (s : String) : Bool := (readWord s.toList).toOption.isSome

/-- The unsigned integer of a text. -/
def wordOf (s : String) : Nat := (readWord s.toList).toOption.getD 0

/-- Whether a text can be a path. -/
def isPath (s : String) : Bool := s ≠ ""

/-- Whether a text is a policy. -/
def isPolicy (s : String) : Bool := (Policy.ofText? s).toOption.isSome

/-- The options before the command. -/
def options : List OptionSpec :=
  [{ name := "config", letter := 'c', accepts := isPath, valueName := "FILE"
     about := "Configuration file path" },
    { name := "dir", letter := 'd', accepts := isPath, valueName := "DIR"
      about := "Record directory (overrides the configuration)" },
    { name := "tenants", letter := 't', accepts := isWord, valueName := "TENANTS"
      about := "Number of tenant slices (overrides the configuration)" },
    { name := "uplink", about := "Operate on the uplink masks" },
    { name := "output", letter := 'o', valueName := "OUTPUT"
      accepts := some fun s => (OutputForm.ofName? s).isSome
      choices :=
        [("table", "Human-readable table format"), ("json", "JSON format"), ("yaml", "YAML format"),
          ("text", "Compact text format")]
      standard := some "table"
      about := "Output format" },
    { name := "json", about := "Enable JSON output (overrides --output)" },
    { name := "verbose", letter := 'v', about := "Enable verbose logging" }]

/-- The word for a slice. -/
def sliceWord : WordSpec := { name := "SLICE", accepts := isWord, about := "Slice identifier" }

/-- The command line of each command. -/
def commands : List Grammar :=
  [{ name := "slicectl equal", about := "Split the pool evenly among all slices" },
    { name := "slicectl range"
      about := "Assign explicit inclusive unit ranges; unlisted slices get none"
      words :=
        [{ name := "RANGES", repeated := true
           accepts := fun s => (Assignment.readRange s).toOption.isSome
           about := "Assignments as SLICE=MIN-MAX (or SLICE=none)" }] },
    { name := "slicectl set-mask"
      about := "Write a mask verbatim for one slice"
      words :=
        [sliceWord,
          { name := "MASK", accepts := fun s => (Mask.ofText? s).toOption.isSome
            about := "Mask as a string of 0/1 characters, one per unit" }] },
    { name := "slicectl relative"
      about := "Grow or shrink one slice to a unit count"
      words :=
        [sliceWord, { name := "UNITS", accepts := isWord, about := "Target number of units" }]
      options :=
        [{ name := "policy", letter := 'p', accepts := isPolicy, valueName := "POLICY"
           about := "Also set the slice's scheduling policy (rr, wf, pf)" }] },
    { name := "slicectl set-policy"
      about := "Set scheduling policies"
      words :=
        [{ name := "ASSIGNMENTS", repeated := true
           accepts := fun s => (Assignment.readPolicy s).toOption.isSome
           about := "Assignments as SLICE=POLICY (rr, wf, pf)" }] },
    { name := "slicectl show", about := "Show masks and policies of every slice" }]

/-- The name of a command without that of the tool. -/
def commandName (g : Grammar) : String := String.ofList (g.name.toList.drop "slicectl ".length)

/-- The command line of the tool. -/
def grammar : Grammar where
  name := "slicectl"
  about := "Inspect and change slice masks and scheduling policies"
  options := options
  commands := commands.map fun g => (commandName g, g.about)
  version := some version

/-- The command that words and options ask for. -/
def commandOf (name : String) (a : Arguments) : Command :=
  match name with
  | "equal" => .equal
  | "range" =>
    .range (.ofList (a.words.filterMap fun s => (Assignment.readRange s).toOption))
  | "set-mask" =>
    .setMask (wordOf (a.word 0)) ((Mask.ofText? (a.word 1)).toOption.getD default)
  | "relative" =>
    .relative (wordOf (a.word 0)) (wordOf (a.word 1))
      ((a.value? "policy").bind fun s => (Policy.ofText? s).toOption)
  | "set-policy" =>
    .setPolicy (a.words.filterMap fun s => (Assignment.readPolicy s).toOption)
  | _ => .inspect

/-- Reads a command line; the command's own grammar tells what a stop was about. -/
def readLine (args : List String) : Except (Grammar × Stop) Line := do
  let a ← (grammar.read args).mapError fun stop => (grammar, stop)
  match a.command with
  | none => .error (grammar, .usage)
  | some name =>
    let g := (commands.find? fun g => commandName g = name).getD grammar
    let inner ← (g.read a.rest).mapError fun stop => (g, stop)
    .ok
      { settingsFile := (a.value? "config").map Path.mk
        directory := (a.value? "dir").map Path.mk
        tenants := (a.value? "tenants").map wordOf
        uplink := a.has "uplink"
        form :=
          if a.has "json" then .json
          else ((a.value? "output").bind OutputForm.ofName?).getD .table
        command := commandOf name inner }

/-! ### Carrying it out -/

/-- The settings of the file or the standard places, with what the command line says instead. -/
def settings (line : Line) (files : FileTree) (env : Environment) :
    Except String SlicingSettings := do
  let s ← match line.settingsFile with
    | some p =>
      (SlicingSettings.ofFile files p).mapError (failedBecause (some ("Failed to load " ++ p.text)))
    | none =>
      (SlicingSettings.ofEnvironment files env).mapError
        (failedBecause (some "Failed to load configuration"))
  let s : SlicingSettings :=
    { s with
      tenants := line.tenants.getD s.tenants
      records :=
        { s.records with
          directory := line.directory.getD s.records.directory
          uplink := line.uplink || s.records.uplink } }
  s.validate.mapError (failedBecause none)
  .ok s

/-- Tells about every unit that two slices hold. -/
def tellOverlaps (style : Style) (masks : SliceMap Mask) (t : Transcript) : Transcript :=
  (Overlap.ofMasks masks).foldl
    (fun t o => tell style .warning
      ("Unit " ++ natText o.unit ++ " is claimed by slices " ++ natText o.first ++ " and " ++
        natText o.second) t) t

/-- Tells what became of a slice that was to have a number of units. -/
def tellOutcome (style : Style) (slice units : Nat) (outcome : AdjustOutcome) (t : Transcript) :
    Transcript :=
  let slice := natText slice
  match outcome with
  | .unchanged =>
    tell style .info ("Slice " ++ slice ++ " already has " ++ natText units ++ " units") t
  | .grown added =>
    tell style .success
      ("Slice " ++ slice ++ " grew by " ++ natText added.length ++ " units") t
  | .shrunk released =>
    tell style .success
      ("Slice " ++ slice ++ " shrank by " ++ natText released.length ++ " units") t
  | .insufficient _ reached target =>
    tell style .warning
      ("No more resources available: slice " ++ slice ++ " reached " ++ natText reached ++ " of " ++
        natText target ++ " units") t

/-- Tells that the policy of a slice was changed. -/
def tellPolicy (style : Style) (slice : Nat) (previous policy : Option Policy) (t : Transcript) :
    Transcript :=
  match previous, policy with
  | some previous, some policy =>
    tell style .info
      ("Slice " ++ natText slice ++ " policy: " ++ previous.title ++ " -> " ++ policy.title) t
  | _, _ => t

/-- Carries out a command: what it wrote, or why it failed, and the store. -/
def carryOut (style : Style) (s : SlicingSettings) (store : FileStore) (command : Command) :
    Except String Transcript × FileStore :=
  let failed (headline : Option String) (f : Fault) (store : FileStore) :
      Except String Transcript × FileStore :=
    (.error (failedBecause headline f), store)
  match command with
  | .equal =>
    match apply s.pool s.tenants store .equal with
    | (.error e, store) => failed (some "Equal allocation failed") e store
    | (.ok written, store) =>
      let t := showSlices style written {}
      let sentence := "Pool split among " ++ natText s.tenants ++ " slices"
      (.ok (tell style .success sentence t), store)
  | .range ranges =>
    match apply s.pool s.tenants store (.ranges ranges) with
    | (.error e, store) => failed (some "Range allocation failed") e store
    | (.ok written, store) =>
      match Store.readMasks store s.tenants with
      | .error e => failed none e store
      | .ok masks =>
        let t := tellOverlaps style (SliceMap.ofMasks masks) {}
        let t := showSlices style written t
        (.ok (tell style .success (natText written.length ++ " masks written") t), store)
  | .setMask slice mask =>
    match apply s.pool s.tenants store (.full slice mask) with
    | (.error e, store) =>
      failed (some ("Writing mask of slice " ++ natText slice ++ " failed")) e store
    | (.ok written, store) =>
      let t := showSlices style written {}
      (.ok (tell style .success ("Mask of slice " ++ natText slice ++ " written") t), store)
  | .relative slice units policy =>
    match setSlice s.pool s.tenants store slice units policy with
    | (.error e, store) =>
      failed (some ("Adjusting slice " ++ natText slice ++ " failed")) e store
    | (.ok change, store) =>
      let t := tellPolicy style slice change.previous policy {}
      let t := showSlice style change.view t
      (.ok (tellOutcome style slice units change.outcome t), store)
  | .setPolicy assignments =>
    match setPolicies s.tenants store assignments with
    | (.error (.store e), store) => failed none e store
    | (.error e, store) => (.error e.message, store)
    | (.ok true, store) => (.ok (tell style .success "Scheduling policies written" {}), store)
    | (.ok false, store) =>
      (.ok (tell style .info "Scheduling policies already up to date" {}), store)
  | .inspect =>
    match allViews store s.tenants with
    | .error e => failed none e store
    | .ok views =>
      let masks := SortedMap.ofList (views.map fun v => (v.slice, v.mask))
      let t := showSlices style views (tellOverlaps style masks {})
      let claimed := views.foldl (fun units v => units + v.mask.count) 0
      let sentence := natText claimed ++ " of " ++ natText s.pool.size ++
        " units assigned (limit " ++ natText s.pool.limit ++ ")"
      match style.form with
      | .table | .text => (.ok (tell style .info sentence t), store)
      | .json | .yaml => (.ok t, store)

/-- Runs the tool. -/
def run (call : Invocation) : Result :=
  match readLine call.args with
  | .error (g, stop) => .stopped g commands stop call.files
  | .ok line =>
    match settings line call.files call.env with
    | .error reason => .failure {} reason call.files
    | .ok s =>
      let style : Style := ⟨line.form, wantsColours call.env⟩
      let store : FileStore := ⟨s.records, s.pool, s.tenants, call.files, {}⟩
      match carryOut style s store line.command with
      | (.ok transcript, store) => .success transcript store.files
      | (.error reason, store) => .failure {} reason store.files

end RanSlicing.Console.Operator
