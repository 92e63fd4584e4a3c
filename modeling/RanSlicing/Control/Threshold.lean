/-
Bands of a metric, and on which side of a band a value lies.

Inside a band nothing is to happen, so a value that moves about in it causes no change.  The two
bounds belong to the band, and so does a value that is no number at all.
-/
import RanSlicing.Document.Basic

namespace RanSlicing

/-- The band between two bounds. -/
structure Threshold where
  lower : Float
  upper : Float

/-- Where a value lies. -/
inductive Verdict where
  | above
  | below
  | within
  deriving DecidableEq, Repr

/-- The name of a verdict in a report. -/
def Verdict.name : Verdict → String
  | .above => "above"
  | .below => "below"
  | .within => "within"

namespace Threshold

/-- Where a value lies with respect to the band. -/
def classify (t : Threshold) (value : Float) : Verdict :=
  if value > t.upper then .above else if value < t.lower then .below else .within

/-- The band an entry of the settings gives: two finite numbers in order. -/
def ofDocument? : Document → Option Threshold
  | .list [.number lower, .number upper] =>
    let band : Threshold := ⟨lower.toFloat, upper.toFloat⟩
    if band.lower.isFinite && band.upper.isFinite && band.lower ≤ band.upper then some band
    else none
  | _ => none

/-- The band on record under `key`; an entry that is missing or gives no band makes way for
`standard`. -/
def resolve (entries : SortedMap String Document) (key : String) (standard : Threshold) :
    Threshold :=
  ((entries.get? key).bind ofDocument?).getD standard

end Threshold

end RanSlicing
