/-
The shortest decimal text of a double.

The doubles split the reals into intervals, each holding the reals that round to one double.
Among all decimals in the interval of a double, its text is one with the fewest digits, and of
those the nearest to the double.  A grid of decimals with a fixed last place meets the interval
only if one of the two grid points next to the double lies in it, so the search looks at those
two for one digit, two digits, and so on; with seventeen digits it always succeeds.
-/
import RanSlicing.Number.Decimal

namespace RanSlicing.Number

/-- A positive finite double as a fraction, with the ends of the interval that rounds to it over
the same denominator. -/
structure Span where
  low : Nat
  value : Nat
  high : Nat
  denominator : Nat
  /-- Whether the ends themselves round to the double. -/
  closed : Bool

/-- A power of two. -/
def twoTo (n : Nat) : Nat := Nat.pow 2 n

/-- A power of ten. -/
def tenTo (n : Nat) : Nat := Nat.pow 10 n

/-- The span of the positive double with these bits, the sign left out. -/
def Span.ofBits (bits : Nat) : Span :=
  let field : Nat := bits / twoTo 52 % twoTo 11
  let fraction : Nat := bits % twoTo 52
  let mantissa := if field = 0 then fraction else twoTo 52 + fraction
  -- a quarter of the unit of the mantissa is two to the power of this
  let quarter : Int := (if field = 0 then -1074 else (field : Int) - 1075) - 2
  let up := twoTo quarter.toNat
  let below := if fraction = 0 ∧ 1 < field then 1 else 2
  { low := (4 * mantissa - below) * up
    value := 4 * mantissa * up
    high := (4 * mantissa + 2) * up
    denominator := twoTo (-quarter).toNat
    closed := mantissa % 2 = 0 }

/-- Whether `c` units of the grid `10 ^ place` lie in the span. -/
def Span.holds (s : Span) (place : Int) (c : Nat) : Bool :=
  let point := c * tenTo place.toNat * s.denominator
  let scale := tenTo (-place).toNat
  if s.closed then s.low * scale ≤ point && point ≤ s.high * scale
  else s.low * scale < point && point < s.high * scale

/-- The point of the grid `10 ^ place` that the span holds, the nearer one if it holds both
neighbours of the double. -/
def Span.onGrid? (s : Span) (place : Int) : Option Nat :=
  let unit := tenTo place.toNat * s.denominator
  let scaled := s.value * tenTo (-place).toNat
  let c := scaled / unit
  let rest := scaled % unit
  match s.holds place c, s.holds place (c + 1) with
  | true, true =>
    if 2 * rest < unit then some c
    else if unit < 2 * rest then some (c + 1)
    else some (c + c % 2)
  | true, false => some c
  | false, true => some (c + 1)
  | false, false => none

/-- The number of digits before the decimal point, or minus the zeros right after it. -/
def Span.magnitude (s : Span) : Int :=
  let guess : Int := (Nat.toDigits 10 s.value).length - (Nat.toDigits 10 s.denominator).length
  if tenTo guess.toNat * s.denominator ≤ s.value * tenTo (-guess).toNat then guess + 1 else guess

/-- The first grid that meets the span, from `tried` digits on, with at most `fuel` more. -/
def Span.search (s : Span) (magnitude : Int) : Nat → Nat → Scientific
  | tried, 0 => ⟨s.value / s.denominator, magnitude - tried⟩
  | tried, fuel + 1 =>
    match s.onGrid? (magnitude - tried) with
    | some c => ⟨c, magnitude - tried⟩
    | none => s.search magnitude (tried + 1) fuel

/-- Trailing zeros of the mantissa moved into the exponent, at most `fuel` of them. -/
def Scientific.stripZeros : Nat → Scientific → Scientific
  | 0, s => s
  | fuel + 1, s =>
    if s.mantissa ≠ 0 ∧ s.mantissa % 10 = 0 then
      Scientific.stripZeros fuel ⟨s.mantissa / 10, s.exponent + 1⟩
    else s

/-- The shortest decimal that reads back as the positive finite double. -/
def shortest (x : Float) : Scientific :=
  let span := Span.ofBits (x.toBits.toNat % signedBound)
  (span.search span.magnitude 1 17).stripZeros 20

/-- How a kind of text writes its fractions. -/
structure FractionStyle where
  /-- A whole number keeps a point and a zero. -/
  keepsPoint : Bool
  /-- The magnitudes written without an exponent. -/
  positional : Int → Bool
  infinite : String
  nan : String

/-- Fractions in running text: never an exponent, and whole numbers bare. -/
def FractionStyle.running : FractionStyle := ⟨false, fun _ => true, "inf", "NaN"⟩

/-- Fractions in documents: whole numbers keep the point, and an exponent begins above sixteen
digits before the point and below five zeros after it. -/
def FractionStyle.document : FractionStyle :=
  ⟨true, fun m => -5 < m && m ≤ 16, ".inf", ".nan"⟩

/-- The digits of a positive decimal with the point in place. -/
def Scientific.positional (s : Scientific) (keepsPoint : Bool) : String :=
  let digits := Nat.toDigits 10 s.mantissa
  let count := digits.length
  let zeros (n : Nat) := List.replicate n '0'
  String.ofList <|
    if 0 ≤ s.exponent then
      digits ++ zeros s.exponent.toNat ++ (if keepsPoint then ['.', '0'] else [])
    else
      let places := s.exponent.natAbs
      if places < count then digits.take (count - places) ++ ['.'] ++ digits.drop (count - places)
      else ['0', '.'] ++ zeros (places - count) ++ digits

/-- The digits of a positive decimal with one digit before the point, and the exponent. -/
def Scientific.exponential (s : Scientific) : String :=
  let digits := Nat.toDigits 10 s.mantissa
  let power : Int := s.exponent + (digits.length - 1 : Nat)
  String.ofList (digits.take 1) ++
    (if digits.length ≤ 1 then "" else "." ++ String.ofList (digits.drop 1)) ++
    "e" ++ intText power

/-- The text of a double. -/
def FractionStyle.write (style : FractionStyle) (x : Float) : String :=
  if x.isNaN then style.nan
  else
    let sign := if x.toBits.toNat / signedBound % 2 = 1 then "-" else ""
    if x.isInf then sign ++ style.infinite
    else if x == 0.0 then sign ++ (if style.keepsPoint then "0.0" else "0")
    else
      let s := shortest x
      let magnitude : Int := (Nat.toDigits 10 s.mantissa).length + s.exponent
      sign ++ (if style.positional magnitude then s.positional style.keepsPoint else s.exponential)

end RanSlicing.Number
