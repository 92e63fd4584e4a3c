/-
The help for a command line.

Help is brief or at length.  The two differ only where an option has a few values to choose
from: the help at length says what each of them stands for, and gives every option lines of its
own.
-/
import RanSlicing.Console.Options

namespace RanSlicing.Console

/-- Lines of two columns. -/
def columns (entries : List (String × String)) : List String :=
  let width := (entries.map (·.1.length)).foldl max 0
  entries.map fun (left, right) =>
    "  " ++ left ++ String.ofList (List.replicate (width - left.length) ' ') ++ "  " ++ right

/-- How an option is written. -/
def OptionSpec.usage (spec : OptionSpec) : String :=
  let letter := match spec.letter with
    | some c => String.ofList ['-', c, ',', ' ']
    | none => "    "
  let value := if spec.accepts.isSome then " <" ++ spec.valueName ++ ">" else ""
  letter ++ "--" ++ spec.name ++ value

/-- How a word is written. -/
def WordSpec.usage (w : WordSpec) : String :=
  "<" ++ w.name ++ ">" ++ (if w.repeated then "..." else "")

/-- The standard value of an option, in brackets. -/
def OptionSpec.standardNote (spec : OptionSpec) : List String :=
  match spec.standard with
  | some value => ["[default: " ++ value ++ "]"]
  | none => []

/-- What an option is for, on one line. -/
def OptionSpec.brief (spec : OptionSpec) : String :=
  let choices := if spec.choices.isEmpty then []
    else ["[possible values: " ++ String.intercalate ", " (spec.choices.map (·.1)) ++ "]"]
  String.intercalate " " ([spec.about] ++ spec.standardNote ++ choices)

/-- What an option is for, on several lines. -/
def OptionSpec.full (spec : OptionSpec) : List String :=
  let width := (spec.choices.map (·.1.length)).foldl max 0
  let choices := if spec.choices.isEmpty then []
    else ["", "Possible values:"] ++ spec.choices.map fun (name, about) =>
      "- " ++ name ++ ": " ++ String.ofList (List.replicate (width - name.length) ' ') ++ about
  let standard := if spec.standard.isSome then "" :: spec.standardNote else []
  [spec.about] ++ standard ++ choices

namespace Grammar

/-- Whether the help at length says more than the brief one. -/
def hasFullHelp (g : Grammar) : Bool := g.options.any fun o => !o.choices.isEmpty

/-- The options, among them those that ask for help and for the version. -/
def allOptions (g : Grammar) (full : Bool) : List (String × OptionSpec) :=
  let help := if !g.hasFullHelp then "Print help"
    else if full then "Print help (see a summary with '-h')"
    else "Print help (see more with '--help')"
  (g.options.map fun o => (o.usage, o)) ++
    [("-h, --help", { name := "help", about := help })] ++
    (if g.version.isSome then [("-V, --version", { name := "version", about := "Print version" })]
      else [])

/-- The help on the options. -/
def optionHelp (g : Grammar) (full : Bool) : List String :=
  let options := g.allOptions full
  if full && g.hasFullHelp then
    (options.map fun (usage, o) =>
      ("  " ++ usage) :: o.full.map fun line => "          " ++ line).intersperse [""]
      |>.flatten
  else columns (options.map fun (usage, o) => (usage, o.brief))

/-- The help for a command line. -/
def help (g : Grammar) (full : Bool) : String :=
  let command := if g.commands.isEmpty then ""
    else if g.commandOptional then " [COMMAND]"
    else " <COMMAND>"
  let required := (g.options.filter (·.required)).map fun o =>
    " --" ++ o.name ++ (if o.accepts.isSome then " <" ++ o.valueName ++ ">" else "")
  let usage := "Usage: " ++ g.name ++ (if g.options.all (·.required) then "" else " [OPTIONS]") ++
    String.join required ++ String.join (g.words.map fun w => " " ++ w.usage) ++ command
  let commands := if g.commands.isEmpty then []
    else ["", "Commands:"] ++ columns (g.commands ++
      [("help", "Print this message or the help of the given subcommand(s)")])
  let arguments := if g.words.isEmpty then []
    else ["", "Arguments:"] ++ columns (g.words.map fun w => (w.usage, w.about))
  let lines := [g.about, "", usage] ++ commands ++ arguments ++ ["", "Options:"] ++ g.optionHelp full
  String.intercalate "\n" lines ++ "\n"

end Grammar

end RanSlicing.Console
