/-
Reading documents in YAML, as settings files use it.

Block lists and block tables are told by indentation, a list may stand as deep as the key it
belongs to, and the first entry of a table may follow the dash of an item.  Scalars are bare or
in either kind of quotes and stay on one line, and so do lists and tables in brackets.  A tag
stands before the node it belongs to.  There is one document in a text, or none.
-/
import RanSlicing.Document.Yaml.Scalar
import RanSlicing.Text.Split

namespace RanSlicing.Yaml

/-! ### Lines -/

/-- A line that says something: how far it is indented, and the rest of it. -/
structure Line where
  indent : Nat
  content : List Char

/-- The blanks inside a line. -/
def isBlank (c : Char) : Bool := c == ' ' || c == '\t'

/-- The text without blanks at its back. -/
def trimBack (cs : List Char) : List Char := (cs.reverse.dropWhile isBlank).reverse

/-- The text without blanks at both ends. -/
def trim (cs : List Char) : List Char := trimBack (cs.dropWhile isBlank)

/-- Where the scan for a comment is: outside quotes, with `fresh` if a scalar may begin here, or
inside quotes of a kind. -/
inductive QuoteState where
  | outside (fresh : Bool)
  | double
  | escaped
  | single

/-- The line without its comment, which begins with a `#` after a blank and outside quotes. -/
def withoutComment (state : QuoteState) (afterBlank : Bool) : List Char → List Char
  | [] => []
  | c :: cs =>
    match state with
    | .escaped => c :: withoutComment .double false cs
    | .double =>
      let next := if c = '\\' then .escaped else if c = '"' then .outside false else .double
      c :: withoutComment next false cs
    | .single =>
      c :: withoutComment (if c = '\'' then .outside false else .single) false cs
    | .outside fresh =>
      if c = '#' ∧ afterBlank then []
      else if c = '"' ∧ fresh then c :: withoutComment .double false cs
      else if c = '\'' ∧ fresh then c :: withoutComment .single false cs
      else
        let fresh := isBlank c || c ∈ ['[', '\x7b', ','] || (fresh && c = '-')
        c :: withoutComment (.outside fresh) (isBlank c) cs

/-- What a line says; nothing if it is blank or a comment.  Tabs do not indent. -/
def readLine (cs : List Char) : Option (Option Line) :=
  let body := cs.dropWhile (· == ' ')
  let content := trimBack (withoutComment (.outside true) true (body.filter (· ≠ '\r')))
  if content = [] then some none
  else if content.head? = some '\t' then none
  else some (some ⟨cs.length - body.length, content⟩)

/-! ### Scalars in quotes -/

/-- A character named by `digits` hexadecimal digits. -/
def readHex (digits : Nat) (cs : List Char) : Option (Char × List Char) := do
  let n ← readRadix 16 (cs.take digits)
  if digits ≤ cs.length ∧ n < 0x110000 ∧ ¬(0xd800 ≤ n ∧ n < 0xe000) then
    some (Char.ofNat n, cs.drop digits)
  else none

/-- The character of a one-letter escape. -/
def escapeLetter? : Char → Option Char
  | '0' => some '\x00'
  | 'a' => some '\x07'
  | 'b' => some '\x08'
  | 't' => some '\t'
  | '\t' => some '\t'
  | 'n' => some '\n'
  | 'v' => some '\x0b'
  | 'f' => some '\x0c'
  | 'r' => some '\r'
  | 'e' => some '\x1b'
  | ' ' => some ' '
  | '"' => some '"'
  | '/' => some '/'
  | '\\' => some '\\'
  | 'N' => some '\u0085'
  | '_' => some '\u00a0'
  | 'L' => some '\u2028'
  | 'P' => some '\u2029'
  | _ => none

/-- The rest of a scalar after its opening double quote. -/
def readDouble : Nat → List Char → Option (List Char × List Char)
  | 0, _ => none
  | fuel + 1, cs =>
    match cs with
    | [] => none
    | '"' :: rest => some ([], rest)
    | '\\' :: letter :: rest => do
      let (c, rest) ← match letter with
        | 'x' => readHex 2 rest
        | 'u' => readHex 4 rest
        | 'U' => readHex 8 rest
        | _ => (escapeLetter? letter).map fun c => (c, rest)
      let (s, rest) ← readDouble fuel rest
      some (c :: s, rest)
    | c :: rest => (readDouble fuel rest).map fun (s, rest) => (c :: s, rest)

/-- The rest of a scalar after its opening single quote. -/
def readSingle : List Char → Option (List Char × List Char)
  | [] => none
  | '\'' :: '\'' :: rest => (readSingle rest).map fun (s, rest) => ('\'' :: s, rest)
  | '\'' :: rest => some ([], rest)
  | c :: rest => (readSingle rest).map fun (s, rest) => (c :: s, rest)

/-- A scalar in quotes at the front of a text. -/
def readQuoted? (cs : List Char) : Option (String × List Char) :=
  match cs with
  | '"' :: rest => (readDouble (rest.length + 1) rest).map fun (s, rest) => (String.ofList s, rest)
  | '\'' :: rest => (readSingle rest).map fun (s, rest) => (String.ofList s, rest)
  | _ => none

/-! ### Nodes on one line -/

/-- The characters that no bare scalar begins with. -/
def indicators : List Char :=
  [',', '[', ']', '\x7b', '\x7d', '#', '&', '*', '!', '|', '>', '\'', '"', '%', '@', '\x60']

/-- Whether a bare scalar can begin like this. -/
def startsBare (cs : List Char) : Bool :=
  match cs with
  | [] => false
  | c :: rest =>
    if c ∈ indicators then false
    else if c ∈ ['-', '?', ':'] then rest ≠ [] && !(rest.head?.any isBlank)
    else true

/-- Whether a colon at the front of the text ends a key. -/
def endsKey (cs : List Char) : Bool :=
  match cs with
  | [':'] => true
  | ':' :: c :: _ => isBlank c
  | _ => false

/-- What stands before and after the first colon that ends a key. -/
def splitKey : List Char → Option (List Char × List Char)
  | [] => none
  | c :: cs =>
    if endsKey (c :: cs) then some ([], cs)
    else (splitKey cs).map fun (key, value) => (c :: key, value)

/-- A bare scalar inside brackets: up to a comma, a bracket, or a colon that ends a key. -/
def spanFlowBare : List Char → List Char × List Char
  | [] => ([], [])
  | c :: cs =>
    if c ∈ [',', '[', ']', '\x7b', '\x7d'] ∨ endsKey (c :: cs) ∨
        (c = ':' ∧ (cs.head?.any fun d => d ∈ [',', '[', ']', '\x7b', '\x7d'])) then ([], c :: cs)
    else
      let (s, rest) := spanFlowBare cs
      (c :: s, rest)

mutual

/-- A node inside brackets. -/
def readFlow (fuel : Nat) (cs : List Char) : Option (Document × List Char) :=
  match fuel with
  | 0 => none
  | fuel + 1 =>
    match cs.dropWhile isBlank with
    | '[' :: rest => (readFlowItems fuel rest).map fun (items, rest) => (.list items, rest)
    | '\x7b' :: rest =>
      (readFlowEntries fuel rest).map fun (entries, rest) => (.table entries, rest)
    | cs =>
      match readQuoted? cs with
      | some (s, rest) => some (.text s, rest)
      | none =>
        if startsBare cs then
          let (s, rest) := spanFlowBare cs
          some (.bare (String.ofList (trimBack s)), rest)
        else none

/-- The items of a list in brackets, up to the closing one. -/
def readFlowItems (fuel : Nat) (cs : List Char) : Option (List Document × List Char) :=
  match fuel with
  | 0 => none
  | fuel + 1 =>
    match cs.dropWhile isBlank with
    | ']' :: rest => some ([], rest)
    | cs => do
      let (item, rest) ← readFlow fuel cs
      match rest.dropWhile isBlank with
      | ']' :: rest => some ([item], rest)
      | ',' :: rest =>
        (readFlowItems fuel rest).map fun (items, rest) => (item :: items, rest)
      | _ => none

/-- The entries of a table in braces, up to the closing one. -/
def readFlowEntries (fuel : Nat) (cs : List Char) :
    Option (List (Key × Document) × List Char) :=
  match fuel with
  | 0 => none
  | fuel + 1 =>
    match cs.dropWhile isBlank with
    | '\x7d' :: rest => some ([], rest)
    | cs => do
      let (node, rest) ← readFlow fuel cs
      let key : Key ← match node with
        | .bare s => some ⟨s, true⟩
        | .text s => some ⟨s, false⟩
        | _ => none
      let (value, rest) ← match rest.dropWhile isBlank with
        | ':' :: rest =>
          match rest.dropWhile isBlank with
          | ',' :: _ => some (.bare "", rest)
          | '\x7d' :: _ => some (.bare "", rest)
          | _ => readFlow fuel rest
        | rest => some (.bare "", rest)
      match rest.dropWhile isBlank with
      | '\x7d' :: rest => some ([(key, value)], rest)
      | ',' :: rest =>
        (readFlowEntries fuel rest).map fun (entries, rest) => ((key, value) :: entries, rest)
      | _ => none

end

/-- A node that takes the whole of a text on one line. -/
def readInline (cs : List Char) : Option Document :=
  match cs with
  | [] => some (.bare "")
  | c :: _ =>
    if c ∈ ['"', '\'', '[', '\x7b'] then
      match readFlow (2 * cs.length + 2) cs with
      | some (d, rest) => if trim rest = [] then some d else none
      | none => none
    else if startsBare cs ∧ (splitKey cs).isNone then some (.bare (String.ofList cs))
    else none

/-! ### Blocks -/

/-- What follows the dash of an item, with how far it stands behind the dash. -/
def itemContent? (cs : List Char) : Option (Nat × List Char) :=
  match cs with
  | ['-'] => some (1, [])
  | '-' :: c :: rest =>
    if isBlank c then
      let content := (c :: rest).dropWhile isBlank
      some (cs.length - content.length, content)
    else none
  | _ => none

/-- The key of an entry and what follows its colon. -/
def entryContent? (cs : List Char) : Option (Key × List Char) :=
  match readQuoted? cs with
  | some (key, rest) =>
    let rest := rest.dropWhile isBlank
    if endsKey rest then some (⟨key, false⟩, trim (rest.drop 1)) else none
  | none =>
    if startsBare cs then
      (splitKey cs).map fun (key, value) =>
        (⟨String.ofList (trimBack key), true⟩, trim value)
    else none

/-- A tag at the front of a text, and what follows it. -/
def tag? (cs : List Char) : Option (String × List Char) :=
  match cs with
  | '!' :: rest =>
    let name := rest.takeWhile fun c => !isBlank c
    some (String.ofList name, (rest.drop name.length).dropWhile isBlank)
  | _ => none

mutual

/-- The node that begins with the first of some lines. -/
def readNode (fuel : Nat) (floor : Nat) (lines : List Line) : Option (Document × List Line) :=
  match fuel with
  | 0 => none
  | fuel + 1 =>
    match lines with
    | [] => none
    | line :: rest =>
      match tag? line.content with
      | some (tag, content) =>
        (readValue fuel floor content rest).map fun (d, rest) => (.tagged tag d, rest)
      | none =>
        if (itemContent? line.content).isSome then
          (readItems fuel line.indent lines).map fun (items, rest) => (.list items, rest)
        else if (entryContent? line.content).isSome then
          (readEntries fuel line.indent lines).map fun (entries, rest) => (.table entries, rest)
        else (readInline line.content).map fun d => (d, rest)

/-- The node that follows a key or a tag: the rest of that line, or the lines below it that are
indented by `floor` at least. -/
def readValue (fuel : Nat) (floor : Nat) (content : List Char) (rest : List Line) :
    Option (Document × List Line) :=
  match fuel with
  | 0 => none
  | fuel + 1 =>
    match tag? content with
    | some (tag, content) =>
      (readValue fuel floor content rest).map fun (d, rest) => (.tagged tag d, rest)
    | none =>
      if content ≠ [] then (readInline content).map fun d => (d, rest)
      else match rest with
        | [] => some (.bare "", [])
        | next :: _ =>
          if floor ≤ next.indent then readNode fuel floor rest
          else if floor = next.indent + 1 ∧ (itemContent? next.content).isSome then
            (readItems fuel next.indent rest).map fun (items, rest) => (.list items, rest)
          else some (.bare "", rest)

/-- The items of a block list indented by `indent`. -/
def readItems (fuel : Nat) (indent : Nat) (lines : List Line) :
    Option (List Document × List Line) :=
  match fuel with
  | 0 => none
  | fuel + 1 =>
    match lines with
    | [] => some ([], [])
    | line :: rest =>
      if indent < line.indent then none
      else if line.indent < indent then some ([], lines)
      else match itemContent? line.content with
        | none => some ([], lines)
        | some (offset, content) => do
          let (item, rest) ←
            if content = [] then
              match rest with
              | next :: _ =>
                if indent < next.indent then readNode fuel (indent + 1) rest
                else some (.bare "", rest)
              | [] => some (.bare "", rest)
            else readNode fuel (indent + 1) (⟨indent + offset, content⟩ :: rest)
          let (items, rest) ← readItems fuel indent rest
          some (item :: items, rest)

/-- The entries of a block table indented by `indent`. -/
def readEntries (fuel : Nat) (indent : Nat) (lines : List Line) :
    Option (List (Key × Document) × List Line) :=
  match fuel with
  | 0 => none
  | fuel + 1 =>
    match lines with
    | [] => some ([], [])
    | line :: rest =>
      if indent < line.indent then none
      else if line.indent < indent then some ([], lines)
      else match entryContent? line.content with
        | none => none
        | some (key, content) => do
          let (value, rest) ← readValue fuel (indent + 1) content rest
          let (entries, rest) ← readEntries fuel indent rest
          some ((key, value) :: entries, rest)

end

/-- Whether a line ends a document or begins another. -/
def isMarker (cs : List Char) : Bool := trimBack cs == ['-', '-', '-'] || trimBack cs == ['.', '.', '.']

/-- Reads a text that holds one document or none; the outer answer is whether it is YAML. -/
def read (s : String) : Option (Option Document) := do
  let raw := Text.lines s.toList
  let begun := raw.dropWhile fun l => match readLine l with
    | some none => true
    | _ => false
  let (marked, body) := match begun with
    | l :: rest => if trimBack l == ['-', '-', '-'] then (true, rest) else (false, begun)
    | [] => (false, [])
  let lines := (← body.mapM readLine).filterMap id
  let lines := match lines.reverse with
    | ⟨0, ['.', '.', '.']⟩ :: rest => rest.reverse
    | _ => lines
  if lines.any fun l => l.indent == 0 && isMarker l.content then none
  else match lines with
    | [] => if marked then some (some (.bare "")) else some none
    | _ => do
      let (d, rest) ← readNode (4 * s.length + 4 * lines.length + 8) 0 lines
      if rest.isEmpty then some (some d) else none

end RanSlicing.Yaml
