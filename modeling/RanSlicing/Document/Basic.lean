/-
Documents: the trees that settings, requests and reports are written as.

One type serves every notation.  A notation without types leaves a scalar as the bare text it
was written as, and what that text is depends on who asks; a notation with types never yields a
bare scalar.  Tables keep the order and the repetitions of their keys.
-/
import RanSlicing.SortedMap

namespace RanSlicing

/-- A number, by the machine type it fits: an unsigned word, a negative signed word, or a
fraction. -/
inductive Numeral where
  | natural (n : Nat)
  | negative (i : Int)
  | fraction (x : Float)

/-- The number as a fraction. -/
def Numeral.toFloat : Numeral → Float
  | .natural n => Float.ofNat n
  | .negative i => Float.ofInt i
  | .fraction x => x

/-- The key of an entry, and whether it was written without quotes. -/
structure Key where
  text : String
  bare : Bool := false
  deriving DecidableEq, Repr

/-- A document. -/
inductive Document where
  | null
  | flag (b : Bool)
  | number (n : Numeral)
  | text (s : String)
  /-- A scalar without quotes whose type is still open. -/
  | bare (s : String)
  | list (items : List Document)
  | table (entries : List (Key × Document))
  | tagged (tag : String) (content : Document)

instance : Inhabited Document := ⟨.null⟩

namespace Document

/-- A table with quoted keys. -/
def fields (entries : List (String × Document)) : Document :=
  .table (entries.map fun e => (⟨e.1, false⟩, e.2))

/-- A natural number. -/
def nat (n : Nat) : Document := .number (.natural n)

/-- An integer. -/
def int (i : Int) : Document :=
  .number (if 0 ≤ i then .natural i.toNat else .negative i)

/-- A fraction. -/
def fraction (x : Float) : Document := .number (.fraction x)

/-- A value that may be missing. -/
def optional {α : Type} (f : α → Document) : Option α → Document
  | none => .null
  | some a => f a

/-- A list of natural numbers. -/
def nats (ns : List Nat) : Document := .list (ns.map nat)

/-- A table whose keys are slices, which need no quotes. -/
def ofSliceMap {α : Type} (f : α → Document) (m : SliceMap α) : Document :=
  .table (m.entries.map fun e => (⟨String.ofList (Nat.toDigits 10 e.1), true⟩, f e.2))

/-- A table whose keys are texts. -/
def ofTextMap {α : Type} (f : α → Document) (m : SortedMap String α) : Document :=
  fields (m.entries.map fun e => (e.1, f e.2))

mutual

/-- Whether a table in the document has a key twice. -/
def repeatsKey : Document → Bool
  | .list items => repeatsKeyItems items
  | .table entries => repeatsKeyEntries entries
  | .tagged _ content => repeatsKey content
  | _ => false

/-- Whether an item of a list has a key twice. -/
def repeatsKeyItems : List Document → Bool
  | [] => false
  | d :: rest => repeatsKey d || repeatsKeyItems rest

/-- Whether a key stands twice among entries or in one of them. -/
def repeatsKeyEntries : List (Key × Document) → Bool
  | [] => false
  | (key, d) :: rest =>
    repeatsKey d || rest.any (fun e => e.1.text == key.text) || repeatsKeyEntries rest

end

end Document

end RanSlicing
