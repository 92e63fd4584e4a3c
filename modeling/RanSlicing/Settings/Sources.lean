/-
Where layered settings come from: the standard values, a file, and the environment.

A file is JSON or YAML by the ending of its name, and a name that no file has is also tried with
each ending in turn.  A variable of the environment names a field by the tables that lead there.
-/
import RanSlicing.Document.Json
import RanSlicing.Document.Yaml.Reader
import RanSlicing.Settings.Layers
import RanSlicing.Settings.Slicing
import RanSlicing.Text.Utf8

namespace RanSlicing

/-- The variables of the environment, with their values. -/
abbrev Environment : Type := List (String × String)

namespace Layers

/-! ### Files -/

/-- The formats of settings files. -/
inductive FileFormat where
  | json
  | yaml
  deriving DecidableEq, Repr

/-- The endings of names and the formats they stand for, in the order in which they are
tried. -/
def endings : List (String × FileFormat) := [("yaml", .yaml), ("yml", .yaml), ("json", .json)]

/-- The table that a text of settings holds. -/
def FileFormat.read : FileFormat → String → Option Document
  | .json, content =>
    match Json.read content with
    | some (.table entries) => some (.table entries)
    | _ => none
  | .yaml, content =>
    match Yaml.read content with
    | none => none
    | some none => some (.table [])
    | some (some d) =>
      if d.repeatsKey then none
      else match Yaml.settleAll Yaml.settleLeniently d with
        | some (.table entries) => some (.table entries)
        | _ => none

/-- A name with an ending put behind it. -/
def withEnding (p : Path) (ending : String) : Option Path :=
  let cs := (p.text.toList.reverse.dropWhile (· == '/')).reverse
  match p.properSteps.getLast? with
  | none | some ".." => none
  | some _ => some ⟨String.ofList cs ++ "." ++ ending⟩

/-- Every file that a name of settings may stand for. -/
def filesNamed (p : Path) : List Path :=
  p :: endings.filterMap fun (ending, _) => withEnding p ending

/-- The file that a name of settings stands for, and its format. -/
def findFile (files : FileTree) (p : Path) : Option (Path × FileFormat) :=
  if files.isFile p then
    (p.extension.bind (endings.lookup ·)).map fun kind => (p, kind)
  else endings.findSome? fun (ending, kind) =>
    match withEnding p ending with
    | none => none
    | some q => if files.isFile q then some (q, kind) else none

/-- The content of a file as a text.  A byte-order mark at its front is left out, and bytes that
are no text are replaced. -/
def contentOf (files : FileTree) (p : Path) : Option String :=
  match files.readContent p with
  | .ok (.text content) =>
    match content.toList with
    | '\uFEFF' :: rest => some (String.ofList rest)
    | _ => some content
  | .ok (.bytes content) => some (Text.decodeReplacing (Text.withoutMark content))
  | .error _ => none

/-! ### The environment -/

/-- What the name of a variable that sets a field begins with. -/
def variableHead : List Char := "sliced__".toList

/-- Two underscores stand for the step into a table. -/
def dotted : List Char → List Char
  | '_' :: '_' :: rest => '.' :: dotted rest
  | c :: rest => c :: dotted rest
  | [] => []

/-- The key that a variable sets. -/
def keyOfVariable? (name : String) : Option String :=
  let name := (foldCase name).toList
  if variableHead.isPrefixOf name then
    some (String.ofList (dotted (name.drop variableHead.length)))
  else none

/-- What the value of a variable stands for. -/
def readVariable (value : String) : Document :=
  let word := foldCase value
  if word = "true" then .flag true
  else if word = "false" then .flag false
  else match Number.readInt64 value.toList with
    | .ok i => .int i
    | .error _ =>
      match Number.readFloat value.toList with
      | some x => .fraction x
      | none => .text value

/-- The environment as a layer. -/
def ofEnvironment (env : Environment) : Document :=
  .fields (env.filterMap fun (name, value) =>
    (keyOfVariable? name).map fun key => (key, readVariable value))

end Layers

/-! ### Slicing settings -/

namespace SlicingSettings

/-- What is wrong with settings that cannot be read. -/
def unreadable (reason : String) : Fault := .reported .settings reason

/-- The settings that layers give, if they are sound. -/
def ofLayers (layers : Document) : Except Fault SlicingSettings :=
  match ofDocument? .generous layers with
  | none => .error (unreadable "a value is of the wrong type")
  | some s => do
    s.validate
    .ok s

/-- The settings of a file, over the standard ones. -/
def ofFile (files : FileTree) (p : Path) : Except Fault SlicingSettings :=
  match Layers.findFile files p with
  | none => .error (unreadable "there is no such settings file")
  | some (p, kind) =>
    match (Layers.contentOf files p).bind kind.read with
    | none => .error (unreadable "the settings file cannot be read")
    | some layer => ofLayers (Layers.add layer standard.toDocument)

/-- The layers with a file that may be missing laid over them. -/
def addFile (files : FileTree) (p : Path) (layers : Document) : Except Fault Document :=
  match Layers.findFile files p with
  | none => .ok layers
  | some (p, kind) =>
    match Layers.contentOf files p with
    | none => .ok layers
    | some content =>
      match kind.read content with
      | none => .error (unreadable "the settings file cannot be read")
      | some layer => .ok (Layers.add layer layers)

/-- The variable that names a settings file. -/
def fileVariable : String := "SLICED_CONFIG"

/-- Where settings are looked for. -/
def places (env : Environment) : List Path :=
  match env.lookup fileVariable with
  | some name => [⟨name⟩]
  | none => [⟨"./sliced"⟩, ⟨"/etc/sliced/config"⟩]

/-- The settings of the standard places and the environment. -/
def ofEnvironment (files : FileTree) (env : Environment) : Except Fault SlicingSettings := do
  let layers ← (places env).foldlM (fun layers p => addFile files p layers) standard.toDocument
  ofLayers (Layers.add (Layers.ofEnvironment env) layers)

end SlicingSettings

end RanSlicing
