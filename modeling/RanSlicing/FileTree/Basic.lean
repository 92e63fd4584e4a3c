/-
A tree of files, as far as the records and the settings need one.

The tree is a value: reading looks something up in it, writing gives another tree.  A file holds
a text, or bytes that are no text.  Every operation answers as the operating system does, with
the first obstacle on the way from where the path starts: a step that is missing, one that is
no directory, one whose name is too long.
-/
import RanSlicing.FileTree.Path

namespace RanSlicing

/-- Why a file operation was refused. -/
inductive SystemError where
  | notFound
  | busy
  | exists
  | notDirectory
  | isDirectory
  | nameTooLong
  | notText
  | nulInName
  deriving DecidableEq, Repr

/-- The wording of the operating system. -/
def SystemError.message : SystemError → String
  | .notFound => "No such file or directory (os error 2)"
  | .busy => "Device or resource busy (os error 16)"
  | .exists => "File exists (os error 17)"
  | .notDirectory => "Not a directory (os error 20)"
  | .isDirectory => "Is a directory (os error 21)"
  | .nameTooLong => "File name too long (os error 36)"
  | .notText => "stream did not contain valid UTF-8"
  | .nulInName => "file name contained an unexpected NUL byte"

/-- What a directory calls an entry: a text, or bytes that are no text. -/
inductive FileName where
  | text (name : String)
  | bytes (name : List UInt8)
  deriving DecidableEq, Repr

/-- The bytes of a name. -/
def FileName.toBytes : FileName → List UInt8
  | .text name => name.toUTF8.toList
  | .bytes name => name

/-- What a file holds: a text, or bytes that are no text. -/
inductive FileContent where
  | text (content : String)
  | bytes (content : List UInt8)
  deriving DecidableEq, Repr

/-- A place in the tree, as the names that lead there from the root. -/
abbrev Location : Type := List FileName

/-- What is at a place: a directory, or a file with its permission bits. -/
inductive FileNode where
  | directory
  | file (content : FileContent) (mode : Nat)
  deriving DecidableEq, Repr

/-- The files and directories below the root, and the place that relative paths start from. -/
structure FileTree where
  entries : List (Location × FileNode)
  workplace : Location
  deriving DecidableEq, Repr

namespace FileTree

/-- The tree of a root that is empty. -/
def empty : FileTree := ⟨[], []⟩

instance : Inhabited FileTree := ⟨empty⟩

/-- What is at a place; the root is always a directory. -/
def node? (t : FileTree) (place : Location) : Option FileNode :=
  if place = [] then some .directory else t.entries.lookup place

/-- The tree with `n` at a place. -/
def put (t : FileTree) (place : Location) (n : FileNode) : FileTree :=
  { t with entries := (place, n) :: t.entries.filter (·.1 ≠ place) }

/-- The tree with `n` at a place and directories on the way to it. -/
def plant (t : FileTree) (place : Location) (n : FileNode) : FileTree :=
  let ways := ((List.range place.length).drop 1).map (place.take ·)
  let t := ways.foldl (fun t way => if (t.node? way).isSome then t else t.put way .directory) t
  t.put place n

/-- The tree without a place and everything below it. -/
def prune (t : FileTree) (place : Location) : FileTree :=
  { t with entries := t.entries.filter fun e => !place.isPrefixOf e.1 }

/-- Follows steps from a place that has to be a directory as soon as one step remains. -/
def follow (t : FileTree) (here : Location) : List String → Except SystemError Location
  | [] => .ok here
  | step :: rest =>
    match t.node? here with
    | none => .error .notFound
    | some (.file ..) => .error .notDirectory
    | some .directory =>
      if step = "" ∨ step = "." then t.follow here rest
      else if step = ".." then t.follow here.dropLast rest
      else if 255 < step.utf8ByteSize then .error .nameTooLong
      else t.follow (here ++ [.text step]) rest

/-- Where a path begins. -/
def start (t : FileTree) (p : Path) : Location := if p.isAbsolute then [] else t.workplace

/-- The place a path names; the place itself need not exist. -/
def locate (t : FileTree) (p : Path) : Except SystemError Location :=
  if p.text = "" then .error .notFound
  else if p.text.toList.contains '\x00' then .error .nulInName
  else if 4096 ≤ p.text.utf8ByteSize then .error .nameTooLong
  else t.follow (t.start p) p.steps

/-- The directory a path names. -/
def locateDirectory (t : FileTree) (p : Path) : Except SystemError Location := do
  let place ← t.locate p
  match t.node? place with
  | none => .error .notFound
  | some (.file ..) => .error .notDirectory
  | some .directory => .ok place

/-- What a file holds. -/
def readContent (t : FileTree) (p : Path) : Except SystemError FileContent := do
  let place ← t.locate p
  match t.node? place with
  | none => .error .notFound
  | some .directory => .error .isDirectory
  | some (.file content _) => .ok content

/-- The text of a file. -/
def readText (t : FileTree) (p : Path) : Except SystemError String := do
  match ← t.readContent p with
  | .bytes _ => .error .notText
  | .text content => .ok content

/-- Whether a path names a file. -/
def isFile (t : FileTree) (p : Path) : Bool :=
  match t.locate p with
  | .error _ => false
  | .ok place => match t.node? place with
    | some (.file ..) => true
    | _ => false

/-- Whether a path names a directory. -/
def isDirectory (t : FileTree) (p : Path) : Bool :=
  match t.locateDirectory p with
  | .error _ => false
  | .ok _ => true

/-- The names in a directory. -/
def list (t : FileTree) (p : Path) : Except SystemError (List FileName) := do
  let place ← t.locateDirectory p
  .ok <| t.entries.filterMap fun e =>
    if e.1 ≠ [] ∧ e.1.dropLast = place then e.1.getLast? else none

/-- Puts a text at a path at one stroke: it is written beside the path first and then takes the
place of whatever file was there, so that a reader finds the old text or the new one.  A
directory is not replaced. -/
def replaceText (t : FileTree) (p : Path) (content : String) : Except SystemError FileTree := do
  let home ← t.locateDirectory p.parent
  let place ← t.locate p
  match p.steps.getLast? with
  | none | some "." | some ".." => .error .busy
  | some "" => .error .notDirectory
  | some name =>
    if home ++ [.text name] ≠ place then .error .busy
    else match t.node? place with
      | some .directory => .error .isDirectory
      | _ => .ok (t.put place (.file (.text content) 0o644))

/-- Writes a text to a file, which keeps its permission bits if it exists already. -/
def writeText (t : FileTree) (p : Path) (content : String) : Except SystemError FileTree := do
  let place ← t.locate p
  match t.node? place with
  | some .directory => .error .isDirectory
  | some (.file _ mode) => .ok (t.put place (.file (.text content) mode))
  | none =>
    match p.steps.getLast? with
    | some "" => .error .isDirectory
    | _ => .ok (t.put place (.file (.text content) 0o644))

/-- Makes the directories that are missing on a way of steps from a directory. -/
def makeWay (t : FileTree) (here : Location) : List String → Except SystemError FileTree
  | [] => .ok t
  | step :: rest =>
    if step = "" ∨ step = "." then t.makeWay here rest
    else if step = ".." then t.makeWay here.dropLast rest
    else if 255 < step.utf8ByteSize then .error .nameTooLong
    else
      let next := here ++ [.text step]
      match t.node? next with
      | some .directory => t.makeWay next rest
      | some (.file ..) =>
        if rest.all (fun s => s = "") then .error .exists else .error .notDirectory
      | none => (t.put next .directory).makeWay next rest

/-- Makes a directory and those on the way to it. -/
def makeDirectory (t : FileTree) (p : Path) : Except SystemError FileTree :=
  if p.text.toList.contains '\x00' then .error .nulInName
  else t.makeWay (t.start p) p.steps

end FileTree

end RanSlicing
