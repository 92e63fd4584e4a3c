/-
What the users of the slices report, and the averages of each slice.

A user's value for a metric is the mean of its samples, and the value of a slice is the mean over
those of its users that have one.  Users of other slices have no part in it.  Sums run from the
first value to the last and start at negative zero, the one start that changes no sum.
-/
import RanSlicing.SortedMap

namespace RanSlicing

/-- The samples of one user, metric by metric in the order of the metrics' names. -/
structure UserRecord where
  user : String
  slice : Nat
  samples : SortedMap String (List Float)

namespace UserRecord

/-- A user without samples. -/
def empty (user : String) (slice : Nat) : UserRecord := ⟨user, slice, .empty⟩

/-- The user with further samples of a metric, which may be none. -/
def extend (u : UserRecord) (metric : String) (values : List Float) : UserRecord :=
  { u with samples := u.samples.insert metric ((u.samples.get? metric).getD [] ++ values) }

/-- The user with one more sample of a metric. -/
def push (u : UserRecord) (metric : String) (value : Float) : UserRecord :=
  u.extend metric [value]

end UserRecord

/-- The mean of some values, if there are any. -/
def meanOf? (values : List Float) : Option Float :=
  if values.isEmpty then none
  else some (values.foldl (· + ·) (-0.0) / values.length.toFloat)

/-- The user's value for a metric. -/
def UserRecord.mean? (u : UserRecord) (metric : String) : Option Float :=
  (u.samples.get? metric).bind meanOf?

/-- The averages of one slice. -/
structure SliceSample where
  userCount : Nat
  averages : SortedMap String Float

/-- The averages of the slices that have users. -/
abbrev Snapshot : Type := SliceMap SliceSample

/-- The average of a metric over the users that have a value for it. -/
def averageOf? (users : List UserRecord) (metric : String) : Option Float :=
  meanOf? (users.filterMap (·.mean? metric))

/-- The averages of the users of one slice. -/
def SliceSample.ofUsers (users : List UserRecord) : SliceSample where
  userCount := users.length
  averages := .ofList <| (users.flatMap (·.samples.keys)).filterMap fun metric =>
    (averageOf? users metric).map fun average => (metric, average)

/-- What one look at the metrics found. -/
structure MetricsWindow where
  users : List UserRecord

namespace MetricsWindow

/-- The look that found no user. -/
def empty : MetricsWindow := ⟨[]⟩

/-- The users of a slice. -/
def usersOf (w : MetricsWindow) (slice : Nat) : List UserRecord :=
  w.users.filter (·.slice == slice)

/-- The averages of every slice that has a user. -/
def aggregate (w : MetricsWindow) : Snapshot :=
  .ofList <| w.users.map fun u => (u.slice, .ofUsers (w.usersOf u.slice))

end MetricsWindow

end RanSlicing
