/-
The two programs: `slicectl`, the operator's tool, and `sliced`, the daemon.

What a command needs of the file system is read into a file tree, the command is carried out on
that tree, and what it changed there is written back.  The program is told by the name it was
started under, or else by its first argument.
-/
import RanSlicing.Console.Daemon
import RanSlicing.Console.Operator

namespace RanSlicing.Shell

/-! ### From the file system to a tree and back -/

/-- What the bytes of a file are. -/
def contentOf (bytes : ByteArray) : FileContent :=
  match String.fromUTF8? bytes with
  | some content => .text content
  | none => .bytes bytes.toList

/-- The bytes of a file. -/
def bytesOf : FileContent → ByteArray
  | .text content => content.toUTF8
  | .bytes content => ⟨content.toArray⟩

/-- The place that steps lead to from another one. -/
def placeOf (start : Location) (steps : List String) : Location :=
  steps.foldl
    (fun place step =>
      if step = "" ∨ step = "." then place
      else if step = ".." then place.dropLast
      else place ++ [.text step])
    start

/-- The name of a place in the file system. -/
def nameOf (place : Location) : String :=
  String.join (place.map fun name => "/" ++ match name with
    | .text s => s
    | .bytes bs => Text.decodeReplacing bs)

/-- What is at a place of the file system, if anything can be found out. -/
def look (place : Location) : IO (Option FileNode) := do
  try
    let real ← IO.FS.realPath (nameOf place)
    match (← real.metadata).type with
    | .dir => return some .directory
    | _ => return some (.file (contentOf (← IO.FS.readBinFile real)) 0o644)
  catch _ => return none

/-- The names in a directory of the file system. -/
def namesIn (place : Location) : IO (List String) := do
  try
    let real ← IO.FS.realPath (nameOf place)
    return (← real.readDir).toList.map (·.fileName)
  catch _ => return []

/-- The tree with what is at a place, on the way to it and, if it is a directory, in it. -/
def loadPlace (tree : FileTree) (place : Location) : IO FileTree := do
  let mut tree := tree
  for length in List.range (place.length + 1) do
    let way := place.take length
    if way ≠ [] then
      match ← look way with
      | some node => tree := tree.put way node
      | none => return tree
  for name in ← namesIn place do
    let inside := place ++ [.text name]
    if let some node ← look inside then tree := tree.put inside node
  return tree

/-- The tree with what the paths lead to. -/
def load (tree : FileTree) (paths : List Path) : IO FileTree :=
  paths.foldlM (fun tree p => loadPlace tree (placeOf (tree.start p) p.steps)) tree

/-- The rights that permission bits stand for. -/
def rightsOf (mode : Nat) : IO.FileRight :=
  let right (bits : Nat) : IO.AccessRight :=
    { read := bits.testBit 2, write := bits.testBit 1, execution := bits.testBit 0 }
  { user := right (mode / 64), group := right (mode / 8), other := right mode }

/-- Puts a file in place at one stroke. -/
def putFile (place : Location) (content : FileContent) (mode : Nat) : IO Unit := do
  let name := nameOf place
  let beside := nameOf place.dropLast ++ "/.slice-record-new"
  IO.FS.writeBinFile beside (bytesOf content)
  IO.setAccessRights beside (rightsOf mode)
  IO.FS.rename beside name

/-- Writes back what differs between two trees. -/
def save (before after : FileTree) : IO Unit := do
  for (place, node) in after.entries.reverse do
    if before.node? place ≠ some node then
      match node with
      | .directory => IO.FS.createDirAll (nameOf place)
      | .file content mode => putFile place content mode

/-! ### What surrounds the programs -/

/-- The variables of the environment. -/
def environment : IO Environment := do
  let bytes ← try IO.FS.readBinFile "/proc/self/environ" catch _ => pure .empty
  let entries := (bytes.toList.splitOn 0).map Text.decodeReplacing
  return entries.filterMap fun entry =>
    (Text.splitOnce ['='] entry.toList).map fun (name, value) =>
      (String.ofList name, String.ofList value)

/-- The tree that only knows where the program works. -/
def workplace : IO FileTree := do
  let here := Path.mk (← IO.currentDir).toString
  let place := placeOf [] here.steps
  load { FileTree.empty with workplace := place } [here]

/-- The paths at which settings may lie. -/
def settingsPaths (file : Option Path) (env : Environment) : List Path :=
  ((file.map fun p => [p]).getD (SlicingSettings.places env)).flatMap Layers.filesNamed

/-! ### The programs -/

/-- The operator's tool. -/
def operator (args : List String) : IO UInt32 := do
  let env ← environment
  let mut files ← workplace
  if let .ok line := Console.Operator.readLine args then
    files ← load files (settingsPaths line.settingsFile env)
    if let .ok s := Console.Operator.settings line files env then
      files ← load files (s.records.paths s.tenants)
  let result := Console.Operator.run ⟨args, env, files⟩
  save files result.files
  IO.print result.transcript.out
  IO.eprint result.transcript.err
  return result.exit.toUInt32

/-- The paths that a daemon with these settings looks at. -/
def daemonPaths (s : AgentSettings) : List Path :=
  s.telemetry.directory :: s.slicing.records.paths s.slicing.tenants

/-- Waits for some seconds. -/
def wait (seconds : Nat) : IO Unit := do
  for _ in [0:seconds] do IO.sleep 1000

/-- Runs a daemon round by round. -/
partial def rounds (agent : Agent Backend) : IO UInt32 := do
  if agent.settings.agent.maxRounds.any (· ≤ agent.rounds) then return 0
  wait agent.settings.agent.periodSeconds
  let before ← load (← workplace) (daemonPaths agent.settings)
  let (report, agent) :=
    { agent with store := agent.store.withTree before }.runOnce before
  save before agent.store.tree
  for incident in report.incidents do IO.eprintln incident.message
  rounds agent

/-- The daemon. -/
def daemon (args : List String) : IO UInt32 := do
  let env ← environment
  let mut files ← workplace
  if let .ok line := Console.Daemon.readLine args then
    let file := match line.command with
      | .validate file => some file
      | _ => line.settingsFile
    files ← load files (settingsPaths file env)
    if let .writeSettings (some file) := line.command then files ← load files [file]
    if let .ok s := Console.Daemon.settings line ⟨args, env, files⟩ then
      files ← load files (daemonPaths s)
  match Console.Daemon.act ⟨args, env, files⟩ with
  | .finished result =>
    save files result.files
    IO.print result.output.render
    IO.eprint result.err
    return result.exit.toUInt32
  | .serve agent =>
    let (started, agent) := agent.start
    save files agent.store.tree
    match started with
    | .error fault =>
      IO.eprintln fault.message
      return 1
    | .ok _ => rounds agent

end RanSlicing.Shell

/-- Runs the program of the name it was started under, or the one that the first argument
names. -/
def main (args : List String) : IO UInt32 := do
  let name := (← IO.appPath).fileName.getD ""
  match name, args with
  | "slicectl", _ => RanSlicing.Shell.operator args
  | "sliced", _ => RanSlicing.Shell.daemon args
  | _, "slicectl" :: rest => RanSlicing.Shell.operator rest
  | _, "sliced" :: rest => RanSlicing.Shell.daemon rest
  | _, _ =>
    IO.eprintln "either slicectl or sliced has to be named"
    return 2
