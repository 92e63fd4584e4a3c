/-
Cutting a text: into lines, and at the first place where a separator stands.

A line ends at a line feed, and a carriage return right before that line feed belongs to the
line end.  A carriage return anywhere else is an ordinary character, also at the very end of a
text whose last line was not ended.
-/
namespace RanSlicing.Text

/-- A line that was collected back to front, without the carriage return of its line end. -/
def closeLine : List Char → List Char
  | '\r' :: begun => begun.reverse
  | begun => begun.reverse

/-- The lines of a text of which `begun` is the line already begun, collected back to front. -/
def linesFrom (begun : List Char) : List Char → List (List Char)
  | [] => if begun = [] then [] else [begun.reverse]
  | c :: cs => if c = '\n' then closeLine begun :: linesFrom [] cs else linesFrom (c :: begun) cs

/-- The lines of a text.  A text that ends with a line feed has no further empty line. -/
def lines (cs : List Char) : List (List Char) := linesFrom [] cs

/-- What stands before and after the first place where `sep` occurs. -/
def splitOnce (sep : List Char) : List Char → Option (List Char × List Char)
  | [] => if sep = [] then some ([], []) else none
  | c :: cs =>
    if sep.isPrefixOf (c :: cs) then some ([], (c :: cs).drop sep.length)
    else (splitOnce sep cs).map fun (before, after) => (c :: before, after)

end RanSlicing.Text
