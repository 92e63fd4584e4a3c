/-
The names of files.

A path is a text of steps between slashes; one that begins with a slash starts at the root, any
other at the directory the process works in.
-/
namespace RanSlicing

/-- The name of a file, as it is written. -/
structure Path where
  text : String
  deriving DecidableEq, Repr, Inhabited

namespace Path

/-- Whether the path starts at the root. -/
def isAbsolute (p : Path) : Bool := p.text.toList.head? == some '/'

/-- The path `part` seen from the directory `p`.  An absolute `part` stands for itself, and an
empty one leaves the slash that says that `p` is a directory. -/
def join (p : Path) (part : String) : Path :=
  if (Path.mk part).isAbsolute ∨ p.text = "" then ⟨part⟩
  else if p.text.toList.getLast? = some '/' then ⟨p.text ++ part⟩
  else ⟨p.text ++ "/" ++ part⟩

/-- The steps between the slashes; two slashes in a row have an empty step between them. -/
def steps (p : Path) : List String := (p.text.toList.splitOn '/').map String.ofList

/-- The steps that lead somewhere: empty ones and single dots are left out. -/
def properSteps (p : Path) : List String := p.steps.filter fun s => s ≠ "" ∧ s ≠ "."

/-- The directory that a file of this name lies in: all but the last step.  A name of one step
lies in the directory the process works in. -/
def parent (p : Path) : Path :=
  let home := String.ofList (List.intercalate ['/'] (p.properSteps.dropLast.map String.toList))
  if p.isAbsolute then ⟨"/" ++ home⟩
  else if home = "" then ⟨"."⟩
  else ⟨home⟩

/-- The part of the last step after its last dot, where that dot is not its first character. -/
def extension (p : Path) : Option String :=
  match p.properSteps.getLast? with
  | none => none
  | some name =>
    if name = ".." then none
    else
      let after := (name.toList.reverse.takeWhile (· ≠ '.')).reverse
      if after.length + 1 < name.length then some (String.ofList after) else none

end Path

end RanSlicing
