/-
A property of characters as the list of code points where it changes.

The list ascends.  Below its first entry no character has the property, from the first entry on
each has it, from the second on none, and so in turn.  A character therefore has the property
exactly if the number of entries up to its code point is odd.
-/
namespace RanSlicing.Text

/-- The code points at which a property of characters begins and ends, in turn. -/
structure Property where
  turns : List Nat

/-- Whether `c` has the property. -/
def Property.has (p : Property) (c : Char) : Bool :=
  (p.turns.takeWhile (· ≤ c.toNat)).length % 2 == 1

/-- A stretch of capital letters that are turned small by one and the same distance: every
`step`-th code point from `first` to `last`. -/
structure CapitalRun where
  first : Nat
  last : Nat
  step : Nat
  distance : Int

/-- Whether `n` is a capital of the run. -/
def CapitalRun.has (r : CapitalRun) (n : Nat) : Bool :=
  r.first ≤ n && n ≤ r.last && (n - r.first) % r.step == 0

end RanSlicing.Text
