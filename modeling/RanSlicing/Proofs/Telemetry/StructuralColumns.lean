/-
The columns that are no metrics.

A table has a column for the slice and one for the time, and may have columns without a name.  The
time and the unnamed columns are passed over by what they are headed, wherever they stand, so no
record and no average has their names.  The slice column is passed over by its position: a further
column of that heading counts as a metric, and its numbers are the one way in which the name of
the slice column comes into a record and from there into an average.
-/
import RanSlicing.Proofs.Telemetry.Source

namespace RanSlicing

namespace MetricsTable

/-- Among the rows of a text that count is one with a number under a further slice column. -/
def RepeatsSlice (rows : Nat) (content : String) : Prop :=
  ∃ header data window, nonBlankLines content = header :: data ∧ Counting rows data window ∧
    ∃ row ∈ window, ∃ first further, first < further ∧
      (columns header)[first]? = some sliceColumn ∧ (columns header)[further]? = some sliceColumn ∧
      (sampleAt? row further).isSome

theorem columnSamples_ne_nil_iff {columns : List String} {slicePosition : Nat} {metric : String}
    {window : List (List Char)} : columnSamples columns slicePosition metric window ≠ [] ↔
      ∃ row ∈ window, ∃ position ∈ metricPositions columns slicePosition metric,
        (sampleAt? row position).isSome := by
  simp [columnSamples, List.flatMap_eq_nil_iff, List.filterMap_eq_nil_iff, Option.isSome_iff_ne_none]

theorem mem_metricPositions_iff {columns : List String} {slicePosition : Nat} {metric : String}
    {position : Nat} : position ∈ metricPositions columns slicePosition metric ↔
      columns[position]? = some metric ∧ position ≠ slicePosition ∧ metric ≠ timeColumn ∧
        metric ≠ "" := by
  rw [metricPositions, List.mem_filter, List.mem_range, decide_eq_true_eq]
  refine and_iff_right_of_imp fun h => ?_
  exact (List.getElem?_eq_some_iff.1 h.1).1

/-- A column that stands elsewhere than the first slice column stands behind it. -/
theorem SliceColumnAt.lt_iff {columns : List String} {position further : Nat}
    (h : SliceColumnAt columns position) (hfurther : columns[further]? = some sliceColumn) :
    position < further ↔ further ≠ position := by
  constructor
  · exact Nat.ne_of_gt
  · intro hne
    exact Nat.lt_of_le_of_ne (Nat.le_of_not_lt fun hlt => h.2 further hlt hfurther) hne.symm

/-- The name of the slice column is among the samples exactly if the column is repeated with a
number; the names of the other structural columns never are. -/
theorem structural_samples {user : String} {rows : Nat} {content : String} {u : UserRecord}
    (h : read user rows content = .ok (some u)) :
    u.samples.get? "" = none ∧ u.samples.get? timeColumn = none ∧
      ((u.samples.get? sliceColumn).isSome ↔ RepeatsSlice rows content) := by
  obtain ⟨-, header, data, position, window, hlines, hcolumn, hrows, hsamples⟩ := of_read_eq_some h
  have hsome : ∀ metric, (u.samples.get? metric).isSome ↔ ∃ row ∈ window,
      ∃ other ∈ metricPositions (columns header) position metric, (sampleAt? row other).isSome := by
    intro metric
    rw [← columnSamples_ne_nil_iff, Option.isSome_iff_exists]
    simp only [hsamples, exists_eq_left]
  have hnone : ∀ metric, metric = timeColumn ∨ metric = "" → u.samples.get? metric = none := by
    intro metric hmetric
    rw [← Option.not_isSome_iff_eq_none, hsome]
    rintro ⟨row, -, other, hother, -⟩
    obtain ⟨-, -, htime, hname⟩ := mem_metricPositions_iff.1 hother
    exact hmetric.elim htime hname
  refine ⟨hnone _ (.inr rfl), hnone _ (.inl rfl), (hsome _).trans ?_⟩
  constructor
  · rintro ⟨row, hrow, further, hfurther, hsample⟩
    obtain ⟨hheaded, hne, -⟩ := mem_metricPositions_iff.1 hfurther
    exact ⟨header, data, window, hlines, hrows, row, hrow, position, further,
      (hcolumn.lt_iff hheaded).2 hne, hcolumn.1, hheaded, hsample⟩
  · rintro ⟨header', data', window', hlines', hrows', row, hrow, first, further, hlt, hfirst,
      hheaded, hsample⟩
    -- Both describe the one table; its first slice column stands no later than the one found.
    obtain ⟨rfl, rfl⟩ := List.cons.inj (hlines.symm.trans hlines')
    obtain rfl := (trailing_eq_iff.2 hrows).symm.trans (trailing_eq_iff.2 hrows')
    have hle : position ≤ first := Nat.le_of_not_lt fun hlt => hcolumn.2 first hlt hfirst
    refine ⟨row, hrow, further, mem_metricPositions_iff.2 ⟨hheaded, ?_, by decide, by decide⟩,
      hsample⟩
    exact (hcolumn.lt_iff hheaded).1 (Nat.lt_of_le_of_lt hle hlt)

end MetricsTable

namespace TelemetrySettings

/-- A record that a look found was read from the file of its user. -/
theorem content_of_collect {s : TelemetrySettings} {t : FileTree} {w : MetricsWindow}
    (h : s.collect t = .ok w) {u : UserRecord} (hu : u ∈ w.users) :
    ∃ content, t.readText (s.userPath u.user) = .ok content ∧
      MetricsTable.read u.user s.windowRows content = .ok (some u) := by
  obtain ⟨users, -, hw⟩ := bind_eq_ok_iff.1 h
  obtain rfl := Except.ok.inj hw
  obtain ⟨user, -, hrecord⟩ := List.mem_filterMap.1 hu
  have hrecord : s.recordOf? t user = some u := hrecord
  obtain rfl := user_of_recordOf? hrecord
  exact readUser_eq_some_iff.1 (recordOf?_eq_some_iff.1 hrecord)

end TelemetrySettings

namespace MetricsWindow

/-- In a look at a directory a metric has an average exactly if a record of the slice names it. -/
theorem average_isSome_iff_of_collect {s : TelemetrySettings} {t : FileTree} {w : MetricsWindow}
    (h : s.collect t = .ok w) {slice : Nat} {sample : SliceSample}
    (hsample : w.aggregate.get? slice = some sample) (metric : String) :
    (sample.averages.get? metric).isSome ↔
      ∃ u ∈ w.users, u.slice = slice ∧ (u.samples.get? metric).isSome := by
  rw [average_isSome_iff hsample]
  refine exists_congr fun u => and_congr_right fun hu => and_congr_right fun _ => ?_
  obtain ⟨content, -, hread⟩ := TelemetrySettings.content_of_collect h hu
  obtain ⟨-, _, _, _, _, -, -, -, hsamples⟩ := MetricsTable.of_read_eq_some hread
  rw [Option.isSome_iff_exists]
  refine exists_congr fun values => and_iff_left_of_imp fun hvalues => ?_
  exact ((hsamples metric values).1 hvalues).2

end MetricsWindow

open MetricsTable (sliceColumn timeColumn RepeatsSlice)

/-- **The time and the columns without a name are no metrics**, in no record and in no average.
The slice column is one exactly where it is repeated with a number in a row that counts: in the
record of that table, and in the average of a slice that one of its users has such a table. -/
theorem structural_columns_passed_over (user : String) (rows : Nat) (content : String)
    (s : TelemetrySettings) (t : FileTree) :
    (∀ u, MetricsTable.read user rows content = .ok (some u) →
      u.samples.get? "" = none ∧ u.samples.get? timeColumn = none ∧
        ((u.samples.get? sliceColumn).isSome ↔ RepeatsSlice rows content)) ∧
      ∀ w, s.collect t = .ok w → ∀ slice sample, w.aggregate.get? slice = some sample →
        sample.averages.get? "" = none ∧ sample.averages.get? timeColumn = none ∧
          ((sample.averages.get? sliceColumn).isSome ↔
            ∃ u ∈ w.users, u.slice = slice ∧ ∃ content,
              t.readText (s.userPath u.user) = .ok content ∧ RepeatsSlice s.windowRows content) := by
  refine ⟨fun u => MetricsTable.structural_samples, ?_⟩
  intro w hcollect slice sample hsample
  have haverage := MetricsWindow.average_isSome_iff_of_collect hcollect hsample
  have hnone : ∀ metric, (∀ u ∈ w.users, u.samples.get? metric = none) →
      sample.averages.get? metric = none := by
    intro metric hmetric
    rw [← Option.not_isSome_iff_eq_none, haverage]
    rintro ⟨u, hu, -, hsome⟩
    rw [hmetric u hu] at hsome
    exact absurd hsome (by simp)
  have hrecord : ∀ u ∈ w.users, ∃ content, t.readText (s.userPath u.user) = .ok content ∧
      u.samples.get? "" = none ∧ u.samples.get? timeColumn = none ∧
        ((u.samples.get? sliceColumn).isSome ↔ RepeatsSlice s.windowRows content) := by
    intro u hu
    obtain ⟨content, hcontent, hread⟩ := TelemetrySettings.content_of_collect hcollect hu
    exact ⟨content, hcontent, MetricsTable.structural_samples hread⟩
  refine ⟨hnone _ fun u hu => ?_, hnone _ fun u hu => ?_, (haverage _).trans ?_⟩
  · obtain ⟨-, -, hname, -⟩ := hrecord u hu
    exact hname
  · obtain ⟨-, -, -, htime, -⟩ := hrecord u hu
    exact htime
  · refine exists_congr fun u => and_congr_right fun hu => and_congr_right fun _ => ?_
    obtain ⟨content, hcontent, -, -, hslice⟩ := hrecord u hu
    rw [hslice]
    constructor
    · intro hrepeats
      exact ⟨content, hcontent, hrepeats⟩
    · rintro ⟨content', hcontent', hrepeats⟩
      obtain rfl := Except.ok.inj (hcontent.symm.trans hcontent')
      exact hrepeats

/-- A slice column that is repeated gives its name to a sample and to an average. -/
theorem average_of_repeated_slice :
    let user := "1010123456002"
    let content := "slice_id,slice_id\n0,5\n"
    let s : TelemetrySettings := ⟨⟨"m"⟩, 1, 1, 10⟩
    let t : FileTree := ⟨[([.text "m"], .directory),
      ([.text "m", .text "1010123456002_metrics.csv"], .file (.text content) 0o644)], []⟩
    (∃ u, MetricsTable.read user s.windowRows content = .ok (some u) ∧
        u.samples.get? sliceColumn = some [5.0]) ∧
      ∃ w, s.collect t = .ok w ∧
        (w.aggregate.get? 0).bind (·.averages.get? sliceColumn) = some 5.0 := by
  intro user content s t
  have hnames : t.list s.directory = .ok [.text "1010123456002_metrics.csv"] := by decide +kernel
  have husers : s.usersAmong [.text "1010123456002_metrics.csv"] = [user] :=
    List.mergeSort_singleton _
  refine ⟨⟨⟨user, 0, .ofList [(sliceColumn, [5.0])]⟩, by decide +kernel, by decide +kernel⟩,
    _, TelemetrySettings.collect_eq hnames, ?_⟩
  rw [husers]
  decide +kernel

/-- The table of a user with a time, a column without a name and the slice column twice, of which
the second holds a number. -/
theorem structural_columns_of_repeated_slice :
    let content := "Timestamp,slice_id,,load,slice_id\n1,0,7,2.5,5\n"
    let s : TelemetrySettings := ⟨⟨"m"⟩, 1, 1, 10⟩
    let t : FileTree := ⟨[([.text "m"], .directory),
      ([.text "m", .text "1010123456002_metrics.csv"], .file (.text content) 0o644)], []⟩
    ∃ w sample, s.collect t = .ok w ∧ w.aggregate.get? 0 = some sample ∧
      sample.averages.get? "load" = some 2.5 ∧ sample.averages.get? timeColumn = none ∧
      RepeatsSlice s.windowRows content := by
  intro content s t
  have hnames : t.list s.directory = .ok [.text "1010123456002_metrics.csv"] := by decide +kernel
  have husers : s.usersAmong [.text "1010123456002_metrics.csv"] = ["1010123456002"] :=
    List.mergeSort_singleton _
  have hcollect := TelemetrySettings.collect_eq hnames
  rw [husers] at hcollect
  obtain ⟨hrecords, haverages⟩ :=
    structural_columns_passed_over "1010123456002" s.windowRows content s t
  obtain ⟨sample, hsample⟩ := Option.isSome_iff_exists.1 (by decide +kernel :
    ((MetricsWindow.mk (["1010123456002"].filterMap (s.recordOf? t))).aggregate.get? 0).isSome = true)
  have hload : (some sample).bind (·.averages.get? "load") = some 2.5 := by
    rw [← hsample]
    decide +kernel
  obtain ⟨-, htime, -⟩ := haverages _ hcollect 0 sample hsample
  have hread : MetricsTable.read "1010123456002" s.windowRows content = .ok (some
      ⟨"1010123456002", 0, .ofList [("load", [2.5]), (sliceColumn, [5.0])]⟩) := by decide +kernel
  obtain ⟨-, -, hslice⟩ := hrecords _ hread
  exact ⟨_, sample, hcollect, hsample, hload, htime, hslice.1 (by decide +kernel)⟩

end RanSlicing
