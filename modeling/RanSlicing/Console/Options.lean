/-
Reading the arguments of a command line.

An option has a name behind two dashes and may have a letter behind one.  Letters of flags can be
run together, and a value follows its option as the next argument, behind an equals sign, or
right behind the letter.  No option may be given twice.  The first other argument names a
command, if there are commands, and the rest of the line is read by that command.  Arguments are
read from the left, and what is wrong or asked for first decides.
-/
namespace RanSlicing.Console

/-- An option. -/
structure OptionSpec where
  name : String
  letter : Option Char := none
  /-- Which values the option takes; a flag takes none. -/
  accepts : Option (String → Bool) := none
  /-- What the value is called. -/
  valueName : String := ""
  /-- The values to choose from, if there are few, with what they stand for. -/
  choices : List (String × String) := []
  /-- The value of an option that is not given. -/
  standard : Option String := none
  /-- Whether the option has to be given. -/
  required : Bool := false
  about : String

/-- A word that a command takes. -/
structure WordSpec where
  name : String
  accepts : String → Bool
  /-- Whether further words are of this kind too. -/
  repeated : Bool := false
  about : String

/-- What a command line may consist of. -/
structure Grammar where
  name : String
  about : String
  options : List OptionSpec := []
  words : List WordSpec := []
  /-- The commands with what they are for. -/
  commands : List (String × String) := []
  /-- Whether the line can do without a command. -/
  commandOptional : Bool := false
  /-- The version that can be asked for. -/
  version : Option String := none

/-- What a command line consists of. -/
structure Arguments where
  /-- The options by name, with their values. -/
  options : List (String × String) := []
  words : List String := []
  command : Option String := none
  /-- What the command has yet to read. -/
  rest : List String := []
  deriving DecidableEq, Repr, Inhabited

/-- Why reading ends before the line does. -/
inductive Stop where
  /-- Help is asked for, at length or not, in general or for a command. -/
  | help (full : Bool) (topic : Option String)
  | version
  | usage
  deriving DecidableEq, Repr

namespace Grammar

/-- The option of a name. -/
def byName? (g : Grammar) (name : String) : Option OptionSpec := g.options.find? (·.name = name)

/-- The option of a letter. -/
def byLetter? (g : Grammar) (letter : Char) : Option OptionSpec :=
  g.options.find? (·.letter = some letter)

/-- The kind of the next word. -/
def nextWord? (g : Grammar) (a : Arguments) : Option WordSpec :=
  match g.words[a.words.length]? with
  | some spec => some spec
  | none => g.words.getLast?.filter (·.repeated)

/-- Takes an option with its value. -/
def take (a : Arguments) (spec : OptionSpec) (value : String) : Except Stop Arguments :=
  if a.options.any (·.1 = spec.name) then .error .usage
  else match spec.accepts with
    | some accepts =>
      if accepts value then .ok { a with options := a.options ++ [(spec.name, value)] }
      else .error .usage
    | none => .ok { a with options := a.options ++ [(spec.name, value)] }

/-- Takes a word. -/
def takeWord (g : Grammar) (a : Arguments) (word : String) : Except Stop Arguments :=
  match g.nextWord? a with
  | some spec =>
    if spec.accepts word then .ok { a with words := a.words ++ [word] } else .error .usage
  | none => .error .usage

/-- What an argument with an option leads to: it is done with, or the option waits for its
value. -/
inductive Taken where
  | complete (a : Arguments)
  | waiting (spec : OptionSpec)

/-- Takes an option by its name, with a value behind an equals sign if there is one. -/
def takeLong (g : Grammar) (a : Arguments) (cs : List Char) : Except Stop Taken :=
  let name := String.ofList (cs.takeWhile (· ≠ '='))
  let value : Option String := match cs.dropWhile (· ≠ '=') with
    | [] => none
    | _ :: value => some (String.ofList value)
  match g.byName? name with
  | some spec =>
    match spec.accepts, value with
    | some _, some value => (take a spec value).map .complete
    | some _, none => .ok (.waiting spec)
    | none, none => (take a spec "").map .complete
    | none, some _ => .error .usage
  | none =>
    if value.isSome then .error .usage
    else if name = "help" then .error (.help true none)
    else if name = "version" ∧ g.version.isSome then .error .version
    else .error .usage

/-- Takes the options of letters that are run together. -/
def takeLetters (g : Grammar) (a : Arguments) : List Char → Except Stop Taken
  | [] => .ok (.complete a)
  | letter :: rest =>
    match g.byLetter? letter with
    | some spec =>
      match spec.accepts, rest with
      | some _, [] => .ok (.waiting spec)
      | some _, '=' :: value => (take a spec (String.ofList value)).map .complete
      | some _, value => (take a spec (String.ofList value)).map .complete
      | none, _ => (take a spec "").bind fun a => takeLetters g a rest
    | none =>
      if letter = 'h' then .error (.help false none)
      else if letter = 'V' ∧ g.version.isSome then .error .version
      else .error .usage

/-- Whether an argument can only be an option or the end of options. -/
def isDashed (arg : String) : Bool := arg.toList.head? == some '-' && arg ≠ "-"

/-- Takes the words that are left after the end of options. -/
def takeWords (g : Grammar) (a : Arguments) (words : List String) : Except Stop Arguments :=
  words.foldlM g.takeWord a

/-- What the command for help leads to. -/
def helpOn (g : Grammar) : List String → Stop
  | [] => .help true none
  | [topic] =>
    if topic = "help" ∨ g.commands.any (·.1 = topic) then .help true (some topic) else .usage
  | _ => .usage

/-- Reads arguments after those in `a`. -/
def readFrom (g : Grammar) (a : Arguments) : List String → Except Stop Arguments
  | [] => .ok a
  | arg :: rest =>
    let go (taken : Except Stop Taken) : Except Stop Arguments := do
      match ← taken with
      | .complete a => readFrom g a rest
      | .waiting spec =>
        match rest with
        | [] => .error .usage
        | value :: rest =>
          if isDashed value then .error .usage
          else do
            let a ← take a spec value
            readFrom g a rest
    match arg.toList with
    | ['-', '-'] => g.takeWords a rest
    | '-' :: '-' :: cs => go (g.takeLong a cs)
    | '-' :: c :: cs => go (g.takeLetters a (c :: cs))
    | _ =>
      if g.commands.isEmpty then (g.takeWord a arg).bind fun a => readFrom g a rest
      else if g.commands.any (·.1 = arg) then .ok { a with command := some arg, rest }
      else if arg = "help" then .error (g.helpOn rest)
      else .error .usage

/-- Whether the arguments lack a word, or an option that has to be given. -/
def lacks (g : Grammar) (a : Arguments) : Bool :=
  a.words.length < g.words.length ||
    g.options.any fun o => o.required && !a.options.any (·.1 = o.name)

/-- Reads the arguments of a command line. -/
def read (g : Grammar) (args : List String) : Except Stop Arguments := do
  let a ← g.readFrom {} args
  if g.lacks a then .error .usage else .ok a

end Grammar

namespace Arguments

/-- The value of an option. -/
def value? (a : Arguments) (name : String) : Option String := a.options.lookup name

/-- Whether an option was given. -/
def has (a : Arguments) (name : String) : Bool := (a.value? name).isSome

/-- A word by its position. -/
def word (a : Arguments) (i : Nat) : String := a.words.getD i ""

end Arguments

end RanSlicing.Console
