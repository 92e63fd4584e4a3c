/-
How a diagnostic quotes a text or a character.

The quotation keeps whatever a reader can see: a quote mark of its own kind and the backslash
are escaped, tab, line feed, carriage return and NUL have short forms, and every other
unprintable or combining character is written by its code point.
-/
import RanSlicing.Text.PrintTable

namespace RanSlicing.Text

/-- A code point as the hexadecimal digits between braces. -/
def codePointEscape (c : Char) : List Char :=
  ['\\', 'u', '\x7b'] ++ Nat.toDigits 16 c.toNat ++ ['\x7d']

/-- One character inside a quotation whose quote mark is `mark`. -/
def escapeIn (mark : Char) (c : Char) : List Char :=
  if c = '\t' then ['\\', 't']
  else if c = '\n' then ['\\', 'n']
  else if c = '\r' then ['\\', 'r']
  else if c = '\x00' then ['\\', '0']
  else if c = '\\' then ['\\', '\\']
  else if c = mark then ['\\', mark]
  else if graphemeExtend.has c || unprintable.has c then codePointEscape c
  else [c]

/-- A text in double quotes. -/
def quoted (s : String) : String :=
  String.ofList (['"'] ++ s.toList.flatMap (escapeIn '"') ++ ['"'])

/-- A character in single quotes. -/
def quotedChar (c : Char) : String :=
  String.ofList (['\''] ++ escapeIn '\'' c ++ ['\''])

end RanSlicing.Text
