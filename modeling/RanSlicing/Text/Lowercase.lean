/-
Lower-casing a text in full Unicode.

Most capitals have one small letter.  Two rules go beyond that: the capital I with a dot above
becomes an i followed by a combining dot, and a capital sigma becomes the final form where it
ends a word.  A sigma ends a word if a cased letter stands before it and none after it, where
case-ignorable characters in between do not count.
-/
import RanSlicing.Text.CaseTable

namespace RanSlicing.Text

/-- The small letter of a capital that has one; any other character stays. -/
def smallLetter (c : Char) : Char :=
  match capitals.find? (·.has c.toNat) with
  | some run => Char.ofNat (Int.toNat (c.toNat + run.distance))
  | none => c

/-- Whether the first character that is not case-ignorable is cased. -/
def startsCased (cs : List Char) : Bool :=
  match cs.dropWhile caseIgnorable.has with
  | c :: _ => cased.has c
  | [] => false

/-- The small form of `c` that stands after `before` (nearest character first) and before
`after`. -/
def lowerAt (before : List Char) (c : Char) (after : List Char) : List Char :=
  if c = 'Σ' then [if startsCased before && !startsCased after then 'ς' else 'σ']
  else if c = 'İ' then ['i', '\u0307']
  else [smallLetter c]

/-- The small form of a text that stands after `before`, nearest character first. -/
def lowerFrom (before : List Char) : List Char → List Char
  | [] => []
  | c :: cs => lowerAt before c cs ++ lowerFrom (c :: before) cs

/-- The text in small letters. -/
def lowercase (cs : List Char) : List Char := lowerFrom [] cs

end RanSlicing.Text
