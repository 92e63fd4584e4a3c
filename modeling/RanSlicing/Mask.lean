/-
Masks: which units of the pool a slice holds.

A mask has a width and one bit for each unit below it.  Seen from outside it is the finite set
of the units that are set, inside a frame of that width: setting and clearing a unit outside the
frame is refused and changes nothing, and asking for one says no.
-/
import RanSlicing.Fault
import RanSlicing.Text.Blank

namespace RanSlicing

/-- The units a slice holds, one bit for each unit below the width. -/
structure Mask where
  bits : List Bool
  deriving DecidableEq, Repr, Inhabited

namespace Mask

/-- The mask of a width that holds nothing. -/
def unassigned (width : Nat) : Mask := ⟨List.replicate width false⟩

/-- The number of units the mask speaks of. -/
def width (m : Mask) : Nat := m.bits.length

/-- Whether a unit is held; a unit outside the width is not. -/
def isSet (m : Mask) (unit : Nat) : Bool := m.bits.getD unit false

instance : Membership Nat Mask where
  mem m unit := m.isSet unit = true

instance (m : Mask) (unit : Nat) : Decidable (unit ∈ m) :=
  inferInstanceAs (Decidable (m.isSet unit = true))

/-- The units held, ascending. -/
def units (m : Mask) : List Nat :=
  m.bits.zipIdx.filterMap fun (held, unit) => if held then some unit else none

/-- How many units are held. -/
def count (m : Mask) : Nat := m.bits.count true

/-- Whether no unit is held. -/
def isUnassigned (m : Mask) : Bool := !m.bits.any id

/-- The lowest unit held. -/
def first? (m : Mask) : Option Nat := m.units.head?

/-- The highest unit held. -/
def last? (m : Mask) : Option Nat := m.units.getLast?

/-- The mask with one unit held or let go; a unit outside the width makes no difference. -/
def put (m : Mask) (unit : Nat) (held : Bool) : Mask := ⟨m.bits.set unit held⟩

/-- The mask with one unit held or let go, and whether that changed anything. -/
def assign (m : Mask) (unit : Nat) (held : Bool) : Except Fault (Mask × Bool) :=
  if unit < m.width then .ok (m.put unit held, m.isSet unit != held)
  else .error (.unitOutside unit m.width)

/-- The mask that holds a further unit, and whether it did not hold it before. -/
def set (m : Mask) (unit : Nat) : Except Fault (Mask × Bool) := m.assign unit true

/-- The mask that lets a unit go, and whether it held it before. -/
def clear (m : Mask) (unit : Nat) : Except Fault (Mask × Bool) := m.assign unit false

/-- The mask of a width that holds the listed units; the first one outside is refused. -/
def ofUnits (width : Nat) (units : List Nat) : Except Fault Mask :=
  units.foldlM (fun m unit => (m.set unit).map (·.1)) (unassigned width)

/-- The mask that also holds what the other one holds, as far as the width reaches. -/
def merge (m other : Mask) : Mask :=
  ⟨m.bits.zipIdx.map fun (held, unit) => held || other.isSet unit⟩

/-- The units below `limit` that are not held, ascending. -/
def freeBelow (m : Mask) (limit : Nat) : List Nat :=
  (List.range limit).filter fun unit => !m.isSet unit

/-- The units held by both, ascending. -/
def overlap (m other : Mask) : List Nat := m.units.filter other.isSet

/-- The mask cut or padded to another width. -/
def resized (m : Mask) (width : Nat) : Mask :=
  ⟨m.bits.take width ++ List.replicate (width - m.width) false⟩

/-! ### The text of a mask

A mask is written as one digit for each unit, `1` for a unit that is held.  Reading takes the
blanks around the digits away and reports the first character that is no digit. -/

/-- The digits of a mask. -/
def digits (m : Mask) : List Char := m.bits.map fun held => if held then '1' else '0'

/-- The text of a mask. -/
def text (m : Mask) : String := String.ofList m.digits

/-- Reads digits, the first of them at `position`. -/
def ofDigits? (position : Nat) : List Char → Except Fault (List Bool)
  | [] => .ok []
  | '0' :: cs => (ofDigits? (position + 1) cs).map (false :: ·)
  | '1' :: cs => (ofDigits? (position + 1) cs).map (true :: ·)
  | c :: _ => .error (.maskCharacter c position)

/-- Reads a mask. -/
def ofText? (s : String) : Except Fault Mask :=
  (ofDigits? 0 (Text.trim s.toList)).map Mask.mk

end Mask

end RanSlicing
