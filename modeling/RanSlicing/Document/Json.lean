/-
Documents in JSON.

Reading is strict: nothing but blanks may stand around the one value, strings hold no control
character and no half of a surrogate pair, and numbers have no leading zero.  A number without
fraction and exponent that fits a machine word is an integer, any other is a fraction; negative
zero is a fraction.  Lists and tables may be nested a hundred and twenty-seven deep.
-/
import RanSlicing.Document.Basic
import RanSlicing.Number.Shortest

namespace RanSlicing.Json

open Number (digit? digitsValue wordMax signedBound Scientific intText natText)

/-! ### Reading -/

/-- How deep lists and tables may be nested, counted from the outside. -/
def depthLimit : Nat := 127

/-- The blanks of JSON. -/
def isBlank (c : Char) : Bool := c == ' ' || c == '\t' || c == '\n' || c == '\r'

/-- The text after blanks. -/
def skipBlanks (cs : List Char) : List Char := cs.dropWhile isBlank

/-- The value of a hexadecimal digit. -/
def hexDigit? (c : Char) : Option Nat :=
  if '0' ≤ c ∧ c ≤ '9' then some (c.toNat - '0'.toNat)
  else if 'a' ≤ c ∧ c ≤ 'f' then some (c.toNat - 'a'.toNat + 10)
  else if 'A' ≤ c ∧ c ≤ 'F' then some (c.toNat - 'A'.toNat + 10)
  else none

/-- Four hexadecimal digits. -/
def readHex4 : List Char → Option (Nat × List Char)
  | a :: b :: c :: d :: rest => do
    let value := (← hexDigit? a) * 4096 + (← hexDigit? b) * 256 + (← hexDigit? c) * 16 +
      (← hexDigit? d)
    some (value, rest)
  | _ => none

/-- The character of a `\u` escape, which may take a second escape for its other half. -/
def readCodePoint (cs : List Char) : Option (Char × List Char) := do
  let (high, rest) ← readHex4 cs
  if 0xd800 ≤ high ∧ high < 0xdc00 then
    match rest with
    | '\\' :: 'u' :: more => do
      let (low, rest) ← readHex4 more
      if 0xdc00 ≤ low ∧ low < 0xe000 then
        some (Char.ofNat (0x10000 + (high - 0xd800) * 0x400 + (low - 0xdc00)), rest)
      else none
    | _ => none
  else if 0xdc00 ≤ high ∧ high < 0xe000 then none
  else some (Char.ofNat high, rest)

/-- The rest of a string after its opening quote, with at most `fuel` further characters. -/
def readStringTail : Nat → List Char → Option (List Char × List Char)
  | 0, _ => none
  | fuel + 1, cs =>
    match cs with
    | [] => none
    | '"' :: rest => some ([], rest)
    | '\\' :: letter :: rest =>
      let go (c : Char) := (readStringTail fuel rest).map fun (s, rest) => (c :: s, rest)
      match letter with
      | '"' => go '"'
      | '\\' => go '\\'
      | '/' => go '/'
      | 'b' => go '\x08'
      | 'f' => go '\x0c'
      | 'n' => go '\n'
      | 'r' => go '\r'
      | 't' => go '\t'
      | 'u' => do
        let (c, rest) ← readCodePoint rest
        let (s, rest) ← readStringTail fuel rest
        some (c :: s, rest)
      | _ => none
    | c :: rest =>
      if c.toNat < 0x20 ∨ c = '\\' then none
      else (readStringTail fuel rest).map fun (s, rest) => (c :: s, rest)

/-- A string whose opening quote has been read. -/
def readString (cs : List Char) : Option (String × List Char) :=
  (readStringTail (cs.length + 1) cs).map fun (s, rest) => (String.ofList s, rest)

/-- The digits at the front. -/
def spanDigits (cs : List Char) : List Char × List Char :=
  cs.span fun c => (digit? c).isSome

/-- The number with these parts. -/
def numeral (negative : Bool) (whole : List Char) (part : Option (List Char))
    (exponent : Option Int) : Option Numeral :=
  let sign (x : Float) := if negative then -x else x
  let n := digitsValue whole
  match part, exponent with
  | none, none =>
    if negative then
      if 0 < n ∧ n ≤ signedBound then some (.negative (-(n : Int)))
      else some (.fraction (-(Scientific.toFloat ⟨n, 0⟩)))
    else if n ≤ wordMax then some (.natural n)
    else some (.fraction (Scientific.toFloat ⟨n, 0⟩))
  | _, _ =>
    let part := part.getD []
    let x := Scientific.toFloat
      ⟨digitsValue (whole ++ part), exponent.getD 0 - part.length⟩
    if x.isFinite then some (.fraction (sign x)) else none

/-- A number. -/
def readNumber (cs : List Char) : Option (Numeral × List Char) := do
  let (negative, cs) := match cs with
    | '-' :: rest => (true, rest)
    | _ => (false, cs)
  let (whole, cs) := spanDigits cs
  if whole = [] ∨ (whole.head? = some '0' ∧ 1 < whole.length) then none
  else do
    let (part, cs) ← match cs with
      | '.' :: rest =>
        let (ds, rest) := spanDigits rest
        if ds = [] then none else some (some ds, rest)
      | _ => some (none, cs)
    let (exponent, cs) ← match cs with
      | letter :: rest =>
        if letter = 'e' ∨ letter = 'E' then
          let (negative, rest) := match rest with
            | '-' :: more => (true, more)
            | '+' :: more => (false, more)
            | _ => (false, rest)
          let (ds, rest) := spanDigits rest
          if ds = [] then none
          else
            let n : Int := digitsValue ds
            some (some (if negative then -n else n), rest)
        else some (none, cs)
      | [] => some (none, cs)
    let n ← numeral negative whole part exponent
    some (n, cs)

/-- What follows a word, if the text begins with it. -/
def afterWord (word : String) (cs : List Char) : Option (List Char) :=
  if word.toList.isPrefixOf cs then some (cs.drop word.length) else none

mutual

/-- A value, inside which lists and tables may be nested `depth` deep. -/
def readValue (fuel depth : Nat) (cs : List Char) : Option (Document × List Char) :=
  match fuel with
  | 0 => none
  | fuel + 1 =>
    match skipBlanks cs with
    | '"' :: rest => (readString rest).map fun (s, rest) => (.text s, rest)
    | '[' :: rest =>
      match depth with
      | 0 => none
      | depth + 1 =>
        match skipBlanks rest with
        | ']' :: rest => some (.list [], rest)
        | _ => (readItems fuel depth rest).map fun (items, rest) => (.list items, rest)
    | '\x7b' :: rest =>
      match depth with
      | 0 => none
      | depth + 1 =>
        match skipBlanks rest with
        | '\x7d' :: rest => some (.table [], rest)
        | _ => (readEntries fuel depth rest).map fun (entries, rest) => (.table entries, rest)
    | 'n' :: rest => (afterWord "ull" rest).map fun rest => (.null, rest)
    | 't' :: rest => (afterWord "rue" rest).map fun rest => (.flag true, rest)
    | 'f' :: rest => (afterWord "alse" rest).map fun rest => (.flag false, rest)
    | cs => (readNumber cs).map fun (n, rest) => (.number n, rest)

/-- The items of a list up to its closing bracket. -/
def readItems (fuel depth : Nat) (cs : List Char) : Option (List Document × List Char) :=
  match fuel with
  | 0 => none
  | fuel + 1 => do
    let (item, rest) ← readValue fuel depth cs
    match skipBlanks rest with
    | ']' :: rest => some ([item], rest)
    | ',' :: rest => (readItems fuel depth rest).map fun (items, rest) => (item :: items, rest)
    | _ => none

/-- The entries of a table up to its closing brace. -/
def readEntries (fuel depth : Nat) (cs : List Char) :
    Option (List (Key × Document) × List Char) :=
  match fuel with
  | 0 => none
  | fuel + 1 =>
    match skipBlanks cs with
    | '"' :: rest => do
      let (key, rest) ← readString rest
      match skipBlanks rest with
      | ':' :: rest => do
        let (value, rest) ← readValue fuel depth rest
        let entry : Key × Document := (⟨key, false⟩, value)
        match skipBlanks rest with
        | '\x7d' :: rest => some ([entry], rest)
        | ',' :: rest =>
          (readEntries fuel depth rest).map fun (entries, rest) => (entry :: entries, rest)
        | _ => none
      | _ => none
    | _ => none

end

/-- Reads a text that is one JSON value. -/
def read (s : String) : Option Document :=
  let cs := s.toList
  match readValue (2 * cs.length + 2) depthLimit cs with
  | some (d, rest) => if skipBlanks rest = [] then some d else none
  | none => none

/-! ### Writing -/

/-- A character inside a JSON string. -/
def escape (c : Char) : List Char :=
  match c with
  | '"' => ['\\', '"']
  | '\\' => ['\\', '\\']
  | '\x08' => ['\\', 'b']
  | '\x0c' => ['\\', 'f']
  | '\n' => ['\\', 'n']
  | '\r' => ['\\', 'r']
  | '\t' => ['\\', 't']
  | c =>
    if c.toNat < 0x20 then
      ['\\', 'u', '0', '0'] ++ (if c.toNat < 0x10 then ['0'] else []) ++ Nat.toDigits 16 c.toNat
    else [c]

/-- A JSON string. -/
def quote (s : String) : String := String.ofList (['"'] ++ s.toList.flatMap escape ++ ['"'])

/-- A JSON number; a fraction that is not finite has no number and is written as null. -/
def writeNumeral : Numeral → String
  | .natural n => natText n
  | .negative i => intText i
  | .fraction x => if x.isFinite then Number.FractionStyle.document.write x else "null"

/-- The line break and indentation before an item that is nested `level` deep. -/
def newline (level : Nat) : String := "\n" ++ String.ofList (List.replicate (2 * level) ' ')

mutual

/-- A document in JSON, spread over lines that are indented by two blanks a level. -/
def write (level : Nat) : Document → String
  | .null => "null"
  | .flag b => if b then "true" else "false"
  | .number n => writeNumeral n
  | .text s => quote s
  | .bare s => quote s
  | .list [] => "[]"
  | .list (item :: items) =>
    "[" ++ newline (level + 1) ++ write (level + 1) item ++ writeItems level items
  | .table [] => "\x7b\x7d"
  | .table ((key, value) :: entries) =>
    "\x7b" ++ newline (level + 1) ++ quote key.text ++ ": " ++ write (level + 1) value ++
      writeEntries level entries
  | .tagged tag content =>
    "\x7b" ++ newline (level + 1) ++ quote tag ++ ": " ++ write (level + 1) content ++
      newline level ++ "\x7d"

/-- The items after the first, and the closing bracket. -/
def writeItems (level : Nat) : List Document → String
  | [] => newline level ++ "]"
  | item :: items =>
    "," ++ newline (level + 1) ++ write (level + 1) item ++ writeItems level items

/-- The entries after the first, and the closing brace. -/
def writeEntries (level : Nat) : List (Key × Document) → String
  | [] => newline level ++ "\x7d"
  | (key, value) :: entries =>
    "," ++ newline (level + 1) ++ quote key.text ++ ": " ++ write (level + 1) value ++
      writeEntries level entries

end

end RanSlicing.Json
