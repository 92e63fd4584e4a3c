/-
Reading values out of documents.

Each notation has its own idea of what may stand for a text, a number or a choice, and a dialect
collects those ideas.  What a record or a map is made of is the same in every dialect: a record
ignores fields it does not know, refuses a known one that is repeated, and a map keeps the last
value of a key.
-/
import RanSlicing.Document.Yaml.Scalar

namespace RanSlicing

open Number (wordMax signedBound)

/-- How a notation writes the values that documents are made of. -/
structure Dialect where
  /-- A text. -/
  text : Document → Option String
  /-- An unsigned word. -/
  nat : Document → Option Nat
  /-- A signed word. -/
  int : Document → Option Int
  /-- A truth value. -/
  flag : Document → Option Bool
  /-- Whether an optional value is absent. -/
  isAbsent : Document → Bool
  /-- A slice as the key of a map. -/
  sliceKey : Key → Option Nat
  /-- The fields of a record, whose names are given in order. -/
  fields : List String → Document → Option (List (Key × Document))
  /-- The name of a choice and what it comes with. -/
  choice : Document → Option (String × Option Document)
  /-- A value of any type. -/
  any : Document → Option Document

namespace Dialect

/-- The number of a document that is one. -/
def numeral? : Document → Option Numeral
  | .number n => some n
  | _ => none

/-- A natural number among typed values. -/
def typedNat (d : Document) : Option Nat :=
  match numeral? d with
  | some (.natural n) => some n
  | _ => none

/-- A signed word among typed values. -/
def typedInt (d : Document) : Option Int :=
  match numeral? d with
  | some (.natural n) => if n < signedBound then some n else none
  | some (.negative i) => some i
  | _ => none

/-- A slice in quotes, written as a JSON number is. -/
def quotedSlice (k : Key) : Option Nat :=
  match k.text.toList with
  | [] => none
  | '0' :: _ :: _ => none
  | cs => if cs.all Char.isDigit then (Number.readWord cs).toOption else none

/-- A record as a table, or as the list of its fields in order. -/
def tableOrList (names : List String) : Document → Option (List (Key × Document))
  | .table entries => some entries
  | .list items =>
    if items.length ≤ names.length then some ((names.map fun n => ⟨n, false⟩).zip items) else none
  | _ => none

/-- A choice without content as its name, and one with content as a table of one entry. -/
def nameOrEntry : Document → Option (String × Option Document)
  | .text name => some (name, none)
  | .table [(key, content)] => some (key.text, some content)
  | _ => none

/-- Typed values, as JSON has them. -/
def typed : Dialect where
  text
    | .text s => some s
    | _ => none
  nat := typedNat
  int := typedInt
  flag
    | .flag b => some b
    | _ => none
  isAbsent
    | .null => true
    | _ => false
  sliceKey := quotedSlice
  fields := tableOrList
  choice := nameOrEntry
  any d := some d

/-- YAML, where a bare scalar is what is asked for. -/
def yaml : Dialect where
  text
    | .text s => some s
    | .bare s => some s
    | _ => none
  nat
    | .bare s => (Yaml.readNatural? s.toList).filter (· ≤ wordMax)
    | _ => none
  int
    | .bare s =>
      match Yaml.readNatural? s.toList with
      | some n => if n < signedBound then some n else none
      | none => (Yaml.readNegative? s.toList).filter (-(signedBound : Int) ≤ ·)
    | _ => none
  flag
    | .bare s => Yaml.flagWord? s
    | _ => none
  isAbsent
    | .bare s => Yaml.isNullWord s
    | _ => false
  sliceKey k :=
    if k.bare then (Yaml.readNatural? k.text.toList).filter (· ≤ wordMax) else none
  fields _
    | .table entries => some entries
    | .bare "" => some []
    | _ => none
  choice
    | .text name => some (name, none)
    | .bare name => some (name, none)
    | .tagged tag content => some (tag, some content)
    | _ => none
  any := Yaml.settleAll fun s => (Yaml.settle s).map fun
    | .number (.fraction x) => if x.isFinite then .fraction x else .null
    | d => d

/-! ### Records, maps and lists -/

/-- The document of one field.  A field that stands twice is refused. -/
def field? (entries : List (Key × Document)) (name : String) : Option (Option Document) :=
  match entries.filter (·.1.text = name) with
  | [] => some none
  | [(_, d)] => some (some d)
  | _ => none

/-- A field that has to be there. -/
def required {α : Type} (entries : List (Key × Document)) (name : String)
    (decode : Document → Option α) : Option α := do
  (← field? entries name).bind decode

/-- A field that may be missing. -/
def defaulted {α : Type} (entries : List (Key × Document)) (name : String)
    (decode : Document → Option α) (default_ : α) : Option α := do
  match ← field? entries name with
  | none => some default_
  | some d => decode d

/-- A value that may be absent. -/
def optional {α : Type} (dialect : Dialect) (decode : Document → Option α) (d : Document) :
    Option (Option α) :=
  if dialect.isAbsent d then some none else (decode d).map some

/-- A list. -/
def listOf {α : Type} (decode : Document → Option α) : Document → Option (List α)
  | .list items => items.mapM decode
  | .bare "" => some []
  | _ => none

/-- A map from slices. -/
def sliceMap {α : Type} (dialect : Dialect) (decode : Document → Option α) :
    Document → Option (SliceMap α)
  | .table entries => do
    let pairs ← entries.mapM fun (key, d) => do
      some (← dialect.sliceKey key, ← decode d)
    some (.ofList pairs)
  | .bare "" => some .empty
  | _ => none

/-- A map from texts. -/
def textMap {α : Type} (decode : Document → Option α) : Document → Option (SortedMap String α)
  | .table entries => do
    let pairs ← entries.mapM fun (key, d) => do some (key.text, ← decode d)
    some (.ofList pairs)
  | .bare "" => some .empty
  | _ => none

/-- A choice that comes with nothing: one of the listed names. -/
def unitChoice {α : Type} (dialect : Dialect) (options : List (String × α)) (d : Document) :
    Option α := do
  let (name, content) ← dialect.choice d
  match content with
  | some d => if dialect.isAbsent d then options.lookup name else none
  | none => options.lookup name

end Dialect

end RanSlicing
