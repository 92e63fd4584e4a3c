/-
What a record holds and what a look at the metrics adds up to.

A record is filled sample by sample.  After any number of samples it holds, for each metric, the
ones of that metric in the order they came in, and no metric without one (`Holds`, kept by a sample
in `Holds.push` and by a list of them in `Holds.fill`).  The averages are maps that are made from
lists in which slices and metrics may be named more than once; look-ups in them say the same as
the functions they are made of (`get?_aggregate`, `get?_averages`).
-/
import RanSlicing.Proofs.SortedMap
import RanSlicing.Telemetry.Window

namespace RanSlicing

deriving instance DecidableEq for UserRecord

namespace UserRecord

/-- The values of one metric among the samples of many. -/
def valuesOf (metric : String) (samples : List (String × Float)) : List Float :=
  samples.filterMap fun s => if s.1 = metric then some s.2 else none

theorem valuesOf_append (metric : String) (front back : List (String × Float)) :
    valuesOf metric (front ++ back) = valuesOf metric front ++ valuesOf metric back :=
  List.filterMap_append

/-- The record has an entry for the metrics of these samples, each with its values in order, and
for no other metric. -/
def Holds (u : UserRecord) (samples : List (String × Float)) : Prop :=
  ∀ metric values,
    u.samples.get? metric = some values ↔ values = valuesOf metric samples ∧ values ≠ []

theorem holds_empty (user : String) (slice : Nat) : (empty user slice).Holds [] :=
  SortedMap.collects_empty

/-- A further sample joins those of its metric. -/
theorem Holds.push {u : UserRecord} {samples : List (String × Float)} (h : u.Holds samples)
    (metric : String) (value : Float) : (u.push metric value).Holds (samples ++ [(metric, value)]) :=
  SortedMap.Collects.add h metric value

/-- The record with further samples. -/
def fill (u : UserRecord) (samples : List (String × Float)) : UserRecord :=
  samples.foldl (fun u s => u.push s.1 s.2) u

/-- **A record holds exactly the samples it was filled with.** -/
theorem Holds.fill {u : UserRecord} {held : List (String × Float)} (h : u.Holds held)
    (samples : List (String × Float)) : (u.fill samples).Holds (held ++ samples) := by
  -- The samples already held grow with each step, so the induction is over any of them.
  induction samples generalizing u held with
  | nil =>
      rw [List.append_nil]
      exact h
  | cons s rest ih =>
      have hrest := ih (h.push s.1 s.2)
      rwa [List.append_assoc] at hrest

theorem holds_fill (user : String) (slice : Nat) (samples : List (String × Float)) :
    ((empty user slice).fill samples).Holds samples :=
  (holds_empty user slice).fill samples

theorem user_fill (u : UserRecord) (samples : List (String × Float)) :
    (u.fill samples).user = u.user := by
  induction samples generalizing u with
  | nil => rfl
  | cons s rest ih => exact ih (u.push s.1 s.2)

theorem slice_fill (u : UserRecord) (samples : List (String × Float)) :
    (u.fill samples).slice = u.slice := by
  induction samples generalizing u with
  | nil => rfl
  | cons s rest ih => exact ih (u.push s.1 s.2)

/-- Records of one user in one slice that hold the same samples are equal. -/
theorem Holds.ext {u v : UserRecord} {samples : List (String × Float)} (hu : u.Holds samples)
    (hv : v.Holds samples) (huser : u.user = v.user) (hslice : u.slice = v.slice) : u = v := by
  have hsamples : u.samples = v.samples :=
    SortedMap.ext_get? fun metric => Option.ext fun values =>
      (hu metric values).trans (hv metric values).symm
  cases u
  cases v
  simp_all

/-! ### Means and averages -/

theorem mean?_eq_none_iff (u : UserRecord) (metric : String) :
    u.mean? metric = none ↔ ∀ values, u.samples.get? metric = some values → values = [] := by
  rw [mean?, Option.bind_eq_none_iff]
  refine forall₂_congr fun values _ => ?_
  simp [meanOf?]

end UserRecord

/-- **A metric has an average exactly if one of the users has a sample of it.** -/
theorem averageOf?_isSome_iff (users : List UserRecord) (metric : String) :
    (averageOf? users metric).isSome ↔
      ∃ u ∈ users, ∃ values, u.samples.get? metric = some values ∧ values ≠ [] := by
  have hmean : (averageOf? users metric).isSome ↔ ∃ u ∈ users, u.mean? metric ≠ none := by
    rw [averageOf?, meanOf?]
    simp [Option.ne_none_iff_exists', List.filterMap_eq_nil_iff]
  rw [hmean]
  refine exists_congr fun u => and_congr_right fun _ => ?_
  rw [Ne, u.mean?_eq_none_iff]
  simp

/-- The metrics of a slice are looked up in the averages of its users. -/
theorem SliceSample.get?_averages (users : List UserRecord) (metric : String) :
    (SliceSample.ofUsers users).averages.get? metric = averageOf? users metric := by
  rw [SliceSample.ofUsers, SortedMap.get?_ofList_filterMap]
  split
  · rfl
  · rename_i hmem
    symm
    rw [← Option.not_isSome_iff_eq_none, averageOf?_isSome_iff]
    rintro ⟨u, hu, values, hvalues, -⟩
    exact hmem (List.mem_flatMap.2 ⟨u, hu, SortedMap.mem_keys_iff.2 ⟨values, hvalues⟩⟩)

namespace MetricsWindow

/-- The slices of a look are those of its users, each with the averages of its own. -/
theorem get?_aggregate (w : MetricsWindow) (slice : Nat) :
    w.aggregate.get? slice
      = if slice ∈ w.users.map (·.slice) then some (.ofUsers (w.usersOf slice)) else none := by
  have hlist : w.users.map (fun u => (u.slice, SliceSample.ofUsers (w.usersOf u.slice)))
      = (w.users.map (·.slice)).filterMap fun slice =>
          (some (SliceSample.ofUsers (w.usersOf slice))).map fun v => (slice, v) := by
    simp [List.filterMap_map]
  rw [aggregate, hlist, SortedMap.get?_ofList_filterMap]

/-- A metric has an average in the sample of a slice exactly if a user of that slice has one. -/
theorem average_isSome_iff {w : MetricsWindow} {slice : Nat} {sample : SliceSample}
    (h : w.aggregate.get? slice = some sample) (metric : String) :
    (sample.averages.get? metric).isSome ↔ ∃ u ∈ w.users, u.slice = slice ∧
      ∃ values, u.samples.get? metric = some values ∧ values ≠ [] := by
  rw [get?_aggregate] at h
  split at h
  · obtain rfl := Option.some.inj h
    rw [SliceSample.get?_averages, averageOf?_isSome_iff]
    simp [usersOf, and_assoc]
  · simp at h

end MetricsWindow

end RanSlicing
