/-
What a scalar without quotes stands for in YAML.

The notation leaves a bare scalar open, and two readers settle it.  The strict one takes the
words for null and for truth in three spellings each, integers in four bases, and fractions that
are finite or one of the words for infinity and for no number; digits after a leading zero are
a text to it.  The lenient one serves layered settings: it knows one spelling of each word, and
reads digits after a leading zero as an integer.
-/
import RanSlicing.Document.Json

namespace RanSlicing.Yaml

open Number (digit? readFloat wordMax signedBound infinity notANumber)

/-- The words for null; a scalar that is missing altogether is null too. -/
def isNullWord (s : String) : Bool := s ∈ ["", "~", "null", "Null", "NULL"]

/-- The words for truth. -/
def flagWord? (s : String) : Option Bool :=
  if s ∈ ["true", "True", "TRUE"] then some true
  else if s ∈ ["false", "False", "FALSE"] then some false
  else none

/-- The text after a sign it may begin with. -/
def dropSign (cs : List Char) : List Char :=
  match cs with
  | '+' :: rest => rest
  | '-' :: rest => rest
  | _ => cs

/-- Digits of a base. -/
def readRadix (base : Nat) (cs : List Char) : Option Nat :=
  if cs = [] then none
  else cs.foldlM (fun value c =>
    match Json.hexDigit? c with
    | some d => if d < base then some (value * base + d) else none
    | none => none) 0

/-- Digits behind a zero, which are a text and no number. -/
def isPaddedDigits (cs : List Char) : Bool :=
  let digits := dropSign cs
  1 < digits.length && digits.head? == some '0' && digits.all fun c => (digit? c).isSome

/-- Digits without a sign, after a prefix for their base if they have one. -/
def readDigits? (cs : List Char) : Option Nat :=
  match cs with
  | '0' :: 'x' :: rest => readRadix 16 rest
  | '0' :: 'o' :: rest => readRadix 8 rest
  | '0' :: 'b' :: rest => readRadix 2 rest
  | _ => readRadix 10 cs

/-- An integer without a minus sign. -/
def readNatural? (cs : List Char) : Option Nat :=
  if isPaddedDigits cs then none
  else match cs with
    | '+' :: rest => readDigits? rest
    | _ => readDigits? cs

/-- An integer with a minus sign. -/
def readNegative? (cs : List Char) : Option Int :=
  if isPaddedDigits cs then none
  else match cs with
    | '-' :: rest => (readDigits? rest).map fun n => -(n : Int)
    | _ => none

/-- A fraction, finite or one of the words with a point. -/
def readFraction? (cs : List Char) : Option Float :=
  let unsigned := match cs with
    | '+' :: rest => rest
    | _ => cs
  if String.ofList unsigned ∈ [".inf", ".Inf", ".INF"] then some infinity
  else if String.ofList cs ∈ ["-.inf", "-.Inf", "-.INF"] then some (-infinity)
  else if String.ofList cs ∈ [".nan", ".NaN", ".NAN"] then some notANumber
  else match unsigned with
    | '+' :: _ => none
    | _ => (readFloat unsigned).filter Float.isFinite

/-- What the strict reader makes of a bare scalar.  An integer that fits no machine word is
refused. -/
def settle (s : String) : Option Document :=
  let cs := s.toList
  if isNullWord s then some .null
  else match flagWord? s with
    | some b => some (.flag b)
    | none =>
      match readNatural? cs, readNegative? cs with
      | some n, _ => if n ≤ wordMax then some (.nat n) else none
      | none, some i =>
        if i = 0 then some (.nat 0) else if -(signedBound : Int) ≤ i then some (.int i) else none
      | none, none =>
        if isPaddedDigits cs then some (.text s)
        else match readFraction? cs with
          | some x => some (.fraction x)
          | none => some (.text s)

/-- What the lenient reader makes of a bare scalar.  A word for infinity or for no number is
refused, since layered settings have no such fraction. -/
def settleLeniently (s : String) : Option Document :=
  let cs := s.toList
  let based := match cs with
    | '0' :: 'x' :: rest => readRadix 16 rest
    | '0' :: 'o' :: rest => readRadix 8 rest
    | _ => none
  if s ∈ ["", "~", "null"] then some .null
  else match based.filter (· < signedBound), Number.readInt64 cs with
    | some n, _ => some (.nat n)
    | none, .ok i => some (.int i)
    | none, .error _ =>
      if s = "true" then some (.flag true)
      else if s = "false" then some (.flag false)
      else if s ∈ [".inf", ".Inf", ".INF", "+.inf", "+.Inf", "+.INF", "-.inf", "-.Inf", "-.INF",
          ".nan", ".NaN", ".NAN"] then none
      else if cs.any fun c => (digit? c).isSome then
        match readFloat cs with
        | some x => some (.fraction x)
        | none => some (.text s)
      else some (.text s)

mutual

/-- The document with every bare scalar settled; keys stay texts, and a tag has no place. -/
def settleAll (settle : String → Option Document) : Document → Option Document
  | .bare s => settle s
  | .list items => (settleItems settle items).map .list
  | .table entries => (settleEntries settle entries).map .table
  | .tagged _ _ => none
  | d => some d

/-- The items of a list with every bare scalar settled. -/
def settleItems (settle : String → Option Document) : List Document → Option (List Document)
  | [] => some []
  | d :: rest => do
    let d ← settleAll settle d
    let rest ← settleItems settle rest
    some (d :: rest)

/-- The entries of a table with every bare scalar settled. -/
def settleEntries (settle : String → Option Document) :
    List (Key × Document) → Option (List (Key × Document))
  | [] => some []
  | (key, d) :: rest => do
    let d ← settleAll settle d
    let rest ← settleEntries settle rest
    some ((⟨key.text, false⟩, d) :: rest)

end

end RanSlicing.Yaml
