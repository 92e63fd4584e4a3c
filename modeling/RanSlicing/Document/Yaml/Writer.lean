/-
Writing documents in YAML.

Tables and lists are written as blocks, a list as deep as the key it belongs to.  A text stands
without quotes where it cannot be taken for anything else: neither for a number or a word with a
meaning of its own nor for the beginning of a block.
-/
import RanSlicing.Document.Yaml.Scalar

namespace RanSlicing.Yaml

/-- A character that may stand anywhere in a bare scalar. -/
def isPlainChar (c : Char) : Bool := c.isAlphanum || c ∈ ['_', '/', '.', '-', ',']

/-- Whether a text can be written without quotes. -/
def isPlain (s : String) : Bool :=
  let cs := s.toList
  cs.all isPlainChar && !cs.all (fun c => c == '-') && cs.head? ≠ some ',' &&
    !(['-', '-', '-'].isPrefixOf cs) && !isPaddedDigits cs &&
    match settle s with
    | some (.text _) => true
    | _ => false

/-- A text in the quotes it needs. -/
def writeText (s : String) : String :=
  if isPlain s then s
  else if s.toList.all fun c => 0x20 ≤ c.toNat && c.toNat < 0x7f && c ≠ '\'' then "'" ++ s ++ "'"
  else Json.quote s

/-- A key. -/
def writeKey (k : Key) : String := if k.bare then k.text else writeText k.text

/-- A fraction. -/
def writeNumeral : Numeral → String
  | .natural n => Number.natText n
  | .negative i => Number.intText i
  | .fraction x => Number.FractionStyle.document.write x

/-- The beginning of a line that is indented by `indent`. -/
def margin (indent : Nat) : String := String.ofList (List.replicate indent ' ')

mutual

/-- What stands behind a key or a tag: a scalar on the same line, or a block below. -/
def writeValue (indent : Nat) : Document → String
  | .null => " null\n"
  | .flag b => if b then " true\n" else " false\n"
  | .number n => " " ++ writeNumeral n ++ "\n"
  | .text s => " " ++ writeText s ++ "\n"
  | .bare s => " " ++ s ++ "\n"
  | .list [] => " []\n"
  | .list (item :: items) => "\n" ++ writeItems indent (item :: items)
  | .table [] => " \x7b\x7d\n"
  | .table (entry :: entries) => "\n" ++ writeEntries (indent + 2) true (entry :: entries)
  | .tagged tag content => " !" ++ tag ++ writeValue indent content

/-- The items of a list whose dashes are indented by `indent`. -/
def writeItems (indent : Nat) : List Document → String
  | [] => ""
  | .table (entry :: entries) :: items =>
    margin indent ++ "- " ++ writeEntries (indent + 2) false (entry :: entries) ++
      writeItems indent items
  | item :: items => margin indent ++ "-" ++ writeValue (indent + 2) item ++ writeItems indent items

/-- The entries of a table, indented by `indent`; the first of them with its own margin or behind
a dash. -/
def writeEntries (indent : Nat) (withMargin : Bool) : List (Key × Document) → String
  | [] => ""
  | (key, value) :: entries =>
    (if withMargin then margin indent else "") ++ writeKey key ++ ":" ++ writeValue indent value ++
      writeEntries indent true entries

end

/-- A document in YAML. -/
def write : Document → String
  | .list (item :: items) => writeItems 0 (item :: items)
  | .table (entry :: entries) => writeEntries 0 true (entry :: entries)
  | d => ((writeValue 0 d).drop 1).toString

end RanSlicing.Yaml
