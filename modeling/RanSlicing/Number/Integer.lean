/-
Reading decimal integers that have to fit a machine word.

A numeral is a run of ASCII digits, with a plus sign in front if one likes and, where negative
numbers are allowed, a minus sign.  The digits are taken from the left, and the first thing
that goes wrong is what is reported: a character that is no digit, or the digit with which the
value leaves the word.
-/
namespace RanSlicing.Number

/-- Why a text is no integer of the wanted kind. -/
inductive IntegerError where
  | empty
  | invalidDigit
  | tooLarge
  | tooSmall
  deriving DecidableEq, Repr

/-- The wording of an integer that could not be read. -/
def IntegerError.message : IntegerError → String
  | .empty => "cannot parse integer from empty string"
  | .invalidDigit => "invalid digit found in string"
  | .tooLarge => "number too large to fit in target type"
  | .tooSmall => "number too small to fit in target type"

/-- The greatest value of an unsigned word of 64 bits. -/
def wordMax : Nat := 18446744073709551615

/-- The number of negative values of a signed word of 64 bits, one more than the greatest. -/
def signedBound : Nat := 9223372036854775808

/-- The value of an ASCII digit. -/
def digit? (c : Char) : Option Nat :=
  if '0' ≤ c ∧ c ≤ '9' then some (c.toNat - '0'.toNat) else none

/-- Reads further digits after ones of value `value`; `overflow` is reported once the value
exceeds `max`. -/
def readDigits (max : Nat) (overflow : IntegerError) (value : Nat) :
    List Char → Except IntegerError Nat
  | [] => .ok value
  | c :: cs =>
    match digit? c with
    | none => .error .invalidDigit
    | some d =>
      if value * 10 + d ≤ max then readDigits max overflow (value * 10 + d) cs
      else .error overflow

/-- An unsigned integer of at most `max`. -/
def readNat (max : Nat) (cs : List Char) : Except IntegerError Nat :=
  match cs with
  | [] => .error .empty
  | ['+'] => .error .invalidDigit
  | '+' :: digits => readDigits max .tooLarge 0 digits
  | digits => readDigits max .tooLarge 0 digits

/-- An unsigned 64-bit integer. -/
def readWord (cs : List Char) : Except IntegerError Nat := readNat wordMax cs

/-- A signed 64-bit integer. -/
def readInt64 (cs : List Char) : Except IntegerError Int :=
  match cs with
  | [] => .error .empty
  | ['+'] => .error .invalidDigit
  | ['-'] => .error .invalidDigit
  | '-' :: digits => (readDigits signedBound .tooSmall 0 digits).map fun n => -(n : Int)
  | '+' :: digits => (readDigits (signedBound - 1) .tooLarge 0 digits).map Int.ofNat
  | digits => (readDigits (signedBound - 1) .tooLarge 0 digits).map Int.ofNat

/-- The decimal numeral of a natural number. -/
def natText (n : Nat) : String := String.ofList (Nat.toDigits 10 n)

/-- The decimal numeral of an integer. -/
def intText (i : Int) : String :=
  if i < 0 then "-" ++ natText i.natAbs else natText i.natAbs

end RanSlicing.Number
