/-
What a command leaves behind: an exit code, what it wrote, and the file tree.
-/
import RanSlicing.Console.Help
import RanSlicing.Console.Output
import RanSlicing.FileTree.Basic

namespace RanSlicing.Console

/-- The version of the tools. -/
def version : String := "0.1.0"

/-- The command line that a tool is given, and what it finds around it. -/
structure Invocation where
  args : List String
  env : List (String × String)
  files : FileTree

/-- What a command leaves behind. -/
structure Result where
  exit : Nat
  transcript : Transcript
  files : FileTree

namespace Result

/-- A command that went well. -/
def success (transcript : Transcript) (files : FileTree) : Result := ⟨0, transcript, files⟩

/-- A command that failed, with the reason as the last line of the error stream. -/
def failure (transcript : Transcript) (reason : String) (files : FileTree) : Result :=
  ⟨1, transcript.warn ("Error: " ++ reason), files⟩

/-- A command line that was not read to its end. -/
def stopped (g : Grammar) (topics : List Grammar) (stop : Stop) (files : FileTree) : Result :=
  let say (text : String) : Result := ⟨0, { out := text }, files⟩
  match stop with
  | .usage => ⟨2, {}, files⟩
  | .version => say (g.name ++ " " ++ version ++ "\n")
  | .help full none => say (g.help full)
  | .help full (some topic) =>
    say (((topics.find? (·.name = g.name ++ " " ++ topic)).getD g).help full)

end Result

/-! ### Reasons with causes -/

/-- Further lines of a cause are indented as far as its first. -/
def indented (margin text : String) : String :=
  String.ofList (text.toList.flatMap fun c => if c = '\n' then '\n' :: margin.toList else [c])

/-- What failed, and the causes from the nearest to the last.  Several causes are numbered. -/
def withCauses (headline : String) (causes : List String) : String :=
  match causes with
  | [] => headline
  | [cause] => headline ++ "\n\nCaused by:\n    " ++ indented "    " cause
  | _ =>
    headline ++ "\n\nCaused by:" ++ String.join (causes.zipIdx.map fun (cause, i) =>
      let number := Number.natText i
      "\n" ++ String.ofList (List.replicate (5 - number.length) ' ') ++ number ++ ": " ++
        indented "       " cause)

/-- A fault and, if it passes on what something else reported, that report. -/
def chain (f : Fault) : List String :=
  match f.kind with
  | .system | .json | .yaml | .settings | .other => [f.message, f.reason]
  | _ => [f.message]

/-- What failed because of a fault, or the fault alone. -/
def failedBecause (headline : Option String) (f : Fault) : String :=
  match headline, chain f with
  | some headline, causes => withCauses headline causes
  | none, first :: causes => withCauses first causes
  | none, [] => ""

end RanSlicing.Console
