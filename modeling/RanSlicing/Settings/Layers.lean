/-
Settings in layers.

A layer is a table that is laid over what the layers before it gave: a table goes into a table
field by field, anything else takes the place of what was there.  At the root of a layer a key
may be a path through several tables.  Keys mean the same in capitals and in small letters.

The values come from files and from the environment, where everything is a text, so they are
taken generously: a text may be a number or a truth value, a number a text or a truth value.
-/
import RanSlicing.Document.Decode
import RanSlicing.Number.Shortest
import RanSlicing.Text.Lowercase

namespace RanSlicing

open Number (intText natText readWord signedBound)

namespace Layers

/-- A key in small letters. -/
def foldCase (key : String) : String := String.ofList (Text.lowercase key.toList)

/-- The entries of a table; anything else has none. -/
def entriesOf : Document → List (Key × Document)
  | .table entries => entries
  | _ => []

/-- The value at a key. -/
def get? (target : Document) (key : String) : Option Document :=
  ((entriesOf target).find? (·.1.text = key)).map (·.2)

/-- The table with a value in place of what was at a key. -/
def put (target : Document) (key : String) (value : Document) : Document :=
  .table (((entriesOf target).filter (·.1.text ≠ key)) ++ [(⟨key, false⟩, value)])

mutual

/-- The table with a value laid over what was at a key. -/
def lay (key : String) (value target : Document) : Document :=
  match value with
  | .table entries => put target key (layAll entries ((get? target key).getD (.table [])))
  | _ => put target key value

/-- The document with every entry laid over it. -/
def layAll : List (Key × Document) → Document → Document
  | [], target => target
  | (key, value) :: rest, target => layAll rest (lay (foldCase key.text) value target)

end

/-! ### Keys that are paths -/

/-- A step of a path: into a field, or to a place in a list. -/
inductive Step where
  | field (name : String)
  | place
  deriving DecidableEq, Repr

/-- A character of a field's name. -/
def isNameChar (c : Char) : Bool := c.isAlphanum || c == '_' || c == '-' || c == ' '

/-- What follows the place in brackets that a text begins with. -/
def afterPlace? (cs : List Char) : Option (List Char) :=
  let digits := match cs with
    | '-' :: rest => rest
    | _ => cs
  match digits.dropWhile Char.isDigit with
  | ']' :: rest => if digits.head?.any Char.isDigit then some rest else none
  | _ => none

/-- The steps after the first, in a text of at most `fuel` characters. -/
def readSteps : Nat → List Char → Option (List Step)
  | _, [] => some []
  | 0, _ => none
  | fuel + 1, '.' :: cs =>
    let name := cs.takeWhile isNameChar
    if name = [] then none
    else (readSteps fuel (cs.drop name.length)).map (.field (String.ofList name) :: ·)
  | fuel + 1, '[' :: cs => do
    let rest ← afterPlace? cs
    (readSteps fuel rest).map (.place :: ·)
  | _, _ => none

/-- The path that a key stands for; a key that is no path stands for itself. -/
def pathOf (key : String) : List Step :=
  let cs := key.toList
  let name := cs.takeWhile isNameChar
  match readSteps cs.length (cs.drop name.length) with
  | some steps => if name = [] then [.field key] else .field (String.ofList name) :: steps
  | none => [.field key]

/-- The document with a value laid over what was at the end of a path.  A scalar that stands in
the way stops it, unless the path ends right there.  What is in a list is never read, so a place
makes a list and no more. -/
def layPath : List Step → Document → Document → Document
  | [], _, target => target
  | .place :: _, _, _ => .list []
  | [.field name], value, target => lay name value target
  | .field name :: step :: rest, value, target =>
    match target with
    | .table _ | .null =>
      put target name (layPath (step :: rest) value ((get? target name).getD .null))
    | _ => target

/-- The layers with one more laid over them. -/
def add (layer target : Document) : Document :=
  (entriesOf layer).foldl
    (fun target (key, value) => layPath (pathOf (foldCase key.text)) value target) target

end Layers

/-! ### Generous values -/

namespace Dialect

/-- The words for truth in settings. -/
def generousFlag? (s : String) : Option Bool :=
  let word := Layers.foldCase s
  if word ∈ ["true", "on", "yes"] then some true
  else if word ∈ ["false", "off", "no"] then some false
  else none

/-- A number as layers hold it: an integer beyond the signed words is a fraction. -/
def layered : Numeral → Numeral
  | .natural n => if n < signedBound then .natural n else .fraction (Float.ofNat n)
  | n => n

/-- A number as a text. -/
def numeralText (n : Numeral) : String :=
  match layered n with
  | .natural n => natText n
  | .negative i => intText i
  | .fraction x => Number.FractionStyle.running.write x

/-- The natural number nearest to a fraction, a half away from zero. -/
def nearestNat (x : Float) : Nat := x.round.toUInt64.toNat

/-- The natural number that a number is taken for; a negative integer is none. -/
def numeralNat (n : Numeral) : Option Nat :=
  match layered n with
  | .natural n => some n
  | .negative _ => none
  | .fraction x => some (nearestNat x)

/-- Settings as layers give them. -/
def generous : Dialect where
  text
    | .text s => some s
    | .flag b => some (if b then "true" else "false")
    | .number n => some (numeralText n)
    | _ => none
  nat
    | .text s =>
      match generousFlag? s with
      | some b => some b.toNat
      | none => (readWord s.toList).toOption
    | .flag b => some b.toNat
    | .number n => numeralNat n
    | _ => none
  int := typed.int
  flag
    | .flag b => some b
    | .number (.fraction x) => some (x != 0.0)
    | .number (.natural n) => some (n ≠ 0)
    | .number (.negative _) => some true
    | .text s => if s = "1" then some true else if s = "0" then some false else generousFlag? s
    | _ => none
  isAbsent := typed.isAbsent
  sliceKey := typed.sliceKey
  fields names
    | .list items => tableOrList names (.list (items.take names.length))
    | d => tableOrList names d
  choice := typed.choice
  any := typed.any

end Dialect

end RanSlicing
