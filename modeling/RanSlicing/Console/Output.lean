/-
How the operator's tool shows what it found.

The same things can be shown as a table, as bare text, in JSON and in YAML.  A table and bare
text are for people: what went well or badly is told in a sentence behind a sign, warnings go to
the error stream, and there may be colours.  JSON and YAML are for programs, and everything goes
to the output stream.
-/
import RanSlicing.Console.Table
import RanSlicing.Console.View
import RanSlicing.Document.Json
import RanSlicing.Document.Yaml.Writer

namespace RanSlicing.Console

/-- A form of output. -/
inductive OutputForm where
  | table
  | json
  | yaml
  | text
  deriving DecidableEq, Repr, Inhabited

/-- The form of a name. -/
def OutputForm.ofName? : String → Option OutputForm
  | "table" => some .table
  | "json" => some .json
  | "yaml" => some .yaml
  | "text" => some .text
  | _ => none

/-- What a command has written to the two streams so far. -/
structure Transcript where
  out : String := ""
  err : String := ""
  deriving DecidableEq, Repr, Inhabited

namespace Transcript

/-- The transcript with a line on the output stream. -/
def print (t : Transcript) (line : String) : Transcript := { t with out := t.out ++ line ++ "\n" }

/-- The transcript with a line on the error stream. -/
def warn (t : Transcript) (line : String) : Transcript := { t with err := t.err ++ line ++ "\n" }

end Transcript

/-! ### Colours -/

/-- A colour of the terminal, by its number. -/
inductive Colour where
  | green
  | yellow
  | blue
  | cyan
  deriving DecidableEq, Repr

/-- The number of a colour. -/
def Colour.code : Colour → String
  | .green => "32"
  | .yellow => "33"
  | .blue => "34"
  | .cyan => "36"

/-- Whether the environment asks for colours. -/
def wantsColours (env : List (String × String)) : Bool :=
  match env.lookup "CLICOLOR_FORCE" with
  | some value => value ≠ "0"
  | none => false

/-- How output is to look. -/
structure Style where
  form : OutputForm
  colours : Bool
  deriving DecidableEq, Repr

namespace Style

/-- A text set off by a code of the terminal. -/
def setOff (style : Style) (code text : String) : String :=
  if style.colours then "\x1b[" ++ code ++ "m" ++ text ++ "\x1b[0m" else text

/-- A text in a colour. -/
def coloured (style : Style) (colour : Colour) (text : String) : String :=
  style.setOff colour.code text

/-- A text in bold letters of a colour. -/
def bold (style : Style) (colour : Colour) (text : String) : String :=
  style.setOff ("1;" ++ colour.code) text

/-- A text in faint letters. -/
def faint (style : Style) (text : String) : String := style.setOff "2" text

/-- The name of a policy in its colour. -/
def policy (style : Style) : Option Policy → String
  | some .roundRobin => Policy.roundRobin.title
  | some .waterfilling => style.coloured .green Policy.waterfilling.title
  | some .proportional => style.coloured .yellow Policy.proportional.title
  | none => style.faint "unset"

end Style

/-! ### Slices -/

/-- What is shown of a slice, name by name. -/
def fields (style : Style) (v : SliceView) : List (String × String) :=
  [("Slice", Number.natText v.slice),
    ("Policy", style.policy v.policy),
    ("Units", Number.natText v.mask.count),
    ("Runs", v.mask.runsText),
    ("Mask", v.mask.text)]

/-- The heading over slices. -/
def heading : List String := ["Slice", "Policy", "Units", "Runs", "Mask"]

/-- Shows one slice. -/
def showSlice (style : Style) (v : SliceView) (t : Transcript) : Transcript :=
  match style.form with
  | .json => t.print (Json.write 0 v.toDocument)
  | .yaml => t.print (Yaml.write v.toDocument)
  | .table =>
    (fields style v).foldl (fun t (name, value) => t.print (style.bold .cyan name ++ ": " ++ value)) t
  | .text => (fields style v).foldl (fun t (name, value) => t.print (name ++ ": " ++ value)) t

/-- Shows slices. -/
def showSlices (style : Style) (vs : List SliceView) (t : Transcript) : Transcript :=
  let rows := vs.map fun v => (fields style v).map (·.2)
  match style.form with
  | .json => t.print (Json.write 0 (.list (vs.map SliceView.toDocument)))
  | .yaml =>
    t.print (if vs.isEmpty then "[]" else Yaml.write (.list (vs.map SliceView.toDocument)))
  | .table =>
    if vs.isEmpty then t.print (style.faint "Nothing to show")
    else (Table.lines heading rows).foldl Transcript.print t
  | .text =>
    if vs.isEmpty then t.print (style.faint "Nothing to show")
    else (rows.map (String.intercalate " ")).foldl Transcript.print t

/-! ### Sentences -/

/-- What a sentence is about. -/
inductive Tone where
  | success
  | warning
  | info
  deriving DecidableEq, Repr

/-- The name of a tone. -/
def Tone.name : Tone → String
  | .success => "success"
  | .warning => "warning"
  | .info => "info"

/-- The sign before a sentence. -/
def Tone.sign : Tone → String
  | .success => "✓"
  | .warning => "⚠"
  | .info => "ℹ"

/-- The colour of a sentence. -/
def Tone.colour : Tone → Colour
  | .success => .green
  | .warning => .yellow
  | .info => .blue

/-- Tells a sentence. -/
def tell (style : Style) (tone : Tone) (sentence : String) (t : Transcript) : Transcript :=
  match style.form with
  | .json =>
    t.print (Json.write 0 (.fields [("message", .text sentence), ("status", .text tone.name)]))
  | .yaml => (t.print ("status: " ++ tone.name)).print ("message: " ++ sentence)
  | .table | .text =>
    let line := style.bold tone.colour tone.sign ++ " " ++ style.coloured tone.colour sentence
    match tone with
    | .warning => t.warn line
    | .success | .info => t.print line

end RanSlicing.Console
