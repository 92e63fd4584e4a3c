/-
Masks, ranges, policies and requests as documents.

A mask is a text of digits, a policy its name, a range a record of its ends.  A request is a
choice: the even split stands alone, the other two come with what they ask for.
-/
import RanSlicing.Allocation.Request
import RanSlicing.Document.Decode

namespace RanSlicing

/-- The document of a mask. -/
def Mask.toDocument (m : Mask) : Document := .text m.text

/-- The mask of a document. -/
def Mask.ofDocument? (dialect : Dialect) (d : Document) : Option Mask :=
  (dialect.text d).bind fun s => (Mask.ofText? s).toOption

/-- The document of a policy. -/
def Policy.toDocument (p : Policy) : Document := .text p.name

/-- The policy of a document. -/
def Policy.ofDocument? (dialect : Dialect) (d : Document) : Option Policy :=
  dialect.unitChoice
    ([Policy.roundRobin, .waterfilling, .proportional].map fun p => (p.name, p)) d

/-- The document of a table of policies. -/
def PolicyTable.toDocument (t : PolicyTable) : Document := .ofSliceMap Policy.toDocument t

/-- The table of policies of a document. -/
def PolicyTable.ofDocument? (dialect : Dialect) (d : Document) : Option PolicyTable :=
  dialect.sliceMap (Policy.ofDocument? dialect) d

/-- The document of a range. -/
def Range.toDocument (r : Range) : Document := .fields [("min", .int r.min), ("max", .int r.max)]

/-- The range of a document. -/
def Range.ofDocument? (dialect : Dialect) (d : Document) : Option Range := do
  let entries ← dialect.fields ["min", "max"] d
  some ⟨← Dialect.required entries "min" dialect.int, ← Dialect.required entries "max" dialect.int⟩

/-- The document of a map of ranges. -/
def Range.mapToDocument (ranges : SliceMap Range) : Document := .ofSliceMap Range.toDocument ranges

/-- The map of ranges of a document. -/
def Range.mapOfDocument? (dialect : Dialect) (d : Document) : Option (SliceMap Range) :=
  dialect.sliceMap (Range.ofDocument? dialect) d

namespace Request

/-- The document of a request. -/
def toDocument : Request → Document
  | .equal => .text "equal"
  | .ranges asked => .tagged "ranges" (Range.mapToDocument asked)
  | .full slice mask =>
    .tagged "full" (.fields [("slice", .nat slice), ("mask", mask.toDocument)])

/-- The slice and mask that a request for one mask comes with. -/
def fullOfDocument? (dialect : Dialect) (d : Document) : Option Request := do
  let entries ← dialect.fields ["slice", "mask"] d
  some (.full (← Dialect.required entries "slice" dialect.nat)
    (← Dialect.required entries "mask" (Mask.ofDocument? dialect)))

/-- The request of a document. -/
def ofDocument? (dialect : Dialect) (d : Document) : Option Request := do
  match ← dialect.choice d with
  | ("equal", none) => some .equal
  | ("equal", some content) => if dialect.isAbsent content then some .equal else none
  | ("ranges", some content) => (Range.mapOfDocument? dialect content).map .ranges
  | ("full", some content) => fullOfDocument? dialect content
  | _ => none

end Request

end RanSlicing
