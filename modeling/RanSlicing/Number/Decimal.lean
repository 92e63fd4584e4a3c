/-
Reading a decimal fraction as the double nearest to it.

A fraction has digits, a point among or beside them, and an exponent; the words for infinity and
for no number at all are fractions too, in capitals or small letters.  The value is rounded once,
from the exact decimal to the nearest double, and a value beyond the greatest double is infinite.
-/
import RanSlicing.Number.Integer

namespace RanSlicing.Number

/-- The number `mantissa` times ten to the power `exponent`. -/
structure Scientific where
  mantissa : Nat
  exponent : Int
  deriving DecidableEq, Repr

/-- Infinity, and the value that is no number. -/
def infinity : Float := 1.0 / 0.0

@[inherit_doc infinity] def notANumber : Float := 0.0 / 0.0

/-- The double nearest to a decimal number.  A magnitude that no double comes near is settled
without computing the power of ten. -/
def Scientific.toFloat (s : Scientific) : Float :=
  let magnitude : Int := (Nat.toDigits 10 s.mantissa).length + s.exponent
  if s.mantissa = 0 then 0.0
  else if 400 < magnitude then infinity
  else if magnitude < -400 then 0.0
  else Float.ofScientific s.mantissa (decide (s.exponent < 0)) s.exponent.natAbs

/-- The value of a run of decimal digits. -/
def digitsValue (digits : List Char) : Nat :=
  digits.foldl (fun value c => value * 10 + (c.toNat - '0'.toNat)) 0

/-- The exponent part of a fraction, all of `cs`: nothing, or a letter and an integer. -/
def readExponent (cs : List Char) : Option Int :=
  let digits (ds : List Char) : Option Nat :=
    if ds ≠ [] ∧ ds.all (fun c => (digit? c).isSome) then some (digitsValue ds) else none
  match cs with
  | [] => some 0
  | letter :: rest =>
    if letter = 'e' ∨ letter = 'E' then
      match rest with
      | '-' :: ds => (digits ds).map fun n => -(n : Int)
      | '+' :: ds => (digits ds).map Int.ofNat
      | ds => (digits ds).map Int.ofNat
    else none

/-- An unsigned fraction in digits. -/
def readScientific (cs : List Char) : Option Scientific :=
  let isDigit (c : Char) := (digit? c).isSome
  let whole := cs.takeWhile isDigit
  let rest := cs.dropWhile isDigit
  let (part, tail) := match rest with
    | '.' :: more => (more.takeWhile isDigit, more.dropWhile isDigit)
    | _ => ([], rest)
  if whole = [] ∧ part = [] then none
  else (readExponent tail).map fun e =>
    ⟨digitsValue (whole ++ part), e - part.length⟩

/-- An unsigned fraction, in digits or as a word. -/
def readMagnitude (cs : List Char) : Option Float :=
  let word := String.ofList (cs.map Char.toLower)
  if word = "inf" ∨ word = "infinity" then some infinity
  else if word = "nan" then some notANumber
  else (readScientific cs).map Scientific.toFloat

/-- A fraction with or without a sign. -/
def readFloat (cs : List Char) : Option Float :=
  match cs with
  | '-' :: rest => (readMagnitude rest).map (- ·)
  | '+' :: rest => readMagnitude rest
  | _ => readMagnitude cs

end RanSlicing.Number
