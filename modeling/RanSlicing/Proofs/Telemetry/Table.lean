/-
A table says what its last rows say, column by column.

Reading goes through the rows that count from left to right and puts each sample into the record
of its metric.  `Tells` describes the answer without that walk: the lines of a table are a header
and rows, the user's slice is what the cell for it in the first row that counts names (`NamesSlice`),
and the samples of a metric are the numbers under the columns headed by it.  `read_eq_iff_tells`
makes the two one.  It rests on `valuesOf_rowSamples`, which turns the cells that a row is cut into
with its columns into positions that are looked up in both.
-/
import RanSlicing.Proofs.Number.Integer
import RanSlicing.Proofs.Telemetry.Window
import RanSlicing.Telemetry.Table

namespace RanSlicing.MetricsTable

open Number (IsNumeral readFloat readWord wordMax)
open UserRecord (valuesOf valuesOf_append)

/-- The lines of a text that are not blank. -/
def nonBlankLines (content : String) : List (List Char) :=
  (Text.lines content.toList).filter (Text.trim · ≠ [])

/-- The position of the first column that is headed as the slice column. -/
def SliceColumnAt (columns : List String) (position : Nat) : Prop :=
  columns[position]? = some sliceColumn ∧ ∀ before < position, columns[before]? ≠ some sliceColumn

instance (columns : List String) (position : Nat) : Decidable (SliceColumnAt columns position) :=
  inferInstanceAs (Decidable (_ ∧ _))

/-- The rows that count are the last `rows` ones, or all if there are fewer. -/
def Counting (rows : Nat) (data window : List (List Char)) : Prop :=
  window <:+ data ∧ window.length = min rows data.length

instance (rows : Nat) (data window : List (List Char)) : Decidable (Counting rows data window) :=
  inferInstanceAs (Decidable (_ ∧ _))

/-- The cell of a row that names the slice; a row that ends before it names none. -/
def sliceCell (row : List Char) (position : Nat) : List Char :=
  Text.trim ((cells row)[position]?.getD [])

/-- A cell names a slice by a numeral in range.  One that is no such numeral names a slice if it is
a fraction that is finite, not negative and whole, as some writers of tables put integers. -/
inductive NamesSlice (cell : List Char) : Nat → Prop
  | numeral {slice : Nat} (h : IsNumeral cell slice) (hword : slice ≤ wordMax) :
      NamesSlice cell slice
  | fraction {x : Float} (hnumeral : ∀ slice ≤ wordMax, ¬IsNumeral cell slice)
      (h : readFloat cell = some x) (hfinite : x.isFinite = true) (hnonneg : 0.0 ≤ x)
      (hwhole : (x.floor == x) = true) : NamesSlice cell x.toUInt64.toNat

/-- The finite number in a cell of a row. -/
def sampleAt? (row : List Char) (position : Nat) : Option Float :=
  ((cells row)[position]?.bind fun cell => readFloat (Text.trim cell)).filter Float.isFinite

/-- The positions of the columns with the samples of a metric: those headed by it, but for the
slice column.  Columns of the time and columns without a name have samples of nothing. -/
def metricPositions (columns : List String) (slicePosition : Nat) (metric : String) : List Nat :=
  (List.range columns.length).filter fun position =>
    columns[position]? = some metric ∧ position ≠ slicePosition ∧ metric ≠ timeColumn ∧ metric ≠ ""

/-- The samples of a metric, row after row and within a row from left to right. -/
def columnSamples (columns : List String) (slicePosition : Nat) (metric : String)
    (window : List (List Char)) : List Float :=
  window.flatMap fun row => (metricPositions columns slicePosition metric).filterMap (sampleAt? row)

/-- What the lines of a table that are not blank say of a user. -/
inductive Tells (user : String) (rows : Nat) :
    List (List Char) → Except TableFault (Option UserRecord) → Prop
  | noHeader : Tells user rows [] (.ok none)
  | noSliceColumn {header : List Char} {data : List (List Char)}
      (hcolumn : sliceColumn ∉ columns header) :
      Tells user rows (header :: data) (.error .noSliceColumn)
  | noRow {header : List Char} {data : List (List Char)} {position : Nat}
      (hcolumn : SliceColumnAt (columns header) position) (hrows : Counting rows data []) :
      Tells user rows (header :: data) (.ok none)
  | noSlice {header first : List Char} {data more : List (List Char)} {position : Nat}
      (hcolumn : SliceColumnAt (columns header) position)
      (hrows : Counting rows data (first :: more))
      (hcell : ∀ slice, ¬NamesSlice (sliceCell first position) slice) :
      Tells user rows (header :: data) (.error (.sliceCell (String.ofList (sliceCell first position))))
  | record {header first : List Char} {data more : List (List Char)} {position : Nat}
      {u : UserRecord} (hcolumn : SliceColumnAt (columns header) position)
      (hrows : Counting rows data (first :: more))
      (hcell : NamesSlice (sliceCell first position) u.slice) (huser : u.user = user)
      (hsamples : ∀ metric values, u.samples.get? metric = some values ↔
        values = columnSamples (columns header) position metric (first :: more) ∧ values ≠ []) :
      Tells user rows (header :: data) (.ok (some u))

/-! ### The slice that a cell names -/

/-- **What is read of a cell is the slice that it names.** -/
theorem readSlice?_eq_some_iff {cell : List Char} {slice : Nat} :
    readSlice? cell = some slice ↔ NamesSlice cell slice := by
  rw [readSlice?]
  cases hword : readWord cell with
  | ok n =>
      obtain ⟨hnumeral, hle⟩ := Number.readNat_eq_ok_iff.1 hword
      constructor
      · intro h
        rw [← Option.some.inj h]
        exact .numeral hnumeral hle
      · intro h
        cases h with
        | numeral h hle =>
            have hread : readWord cell = .ok slice := Number.readNat_eq_ok_iff.2 ⟨h, hle⟩
            rw [Except.ok.inj (hword.symm.trans hread)]
        | fraction hno => exact absurd hnumeral (hno n hle)
  | error e =>
      have hno : ∀ n ≤ wordMax, ¬IsNumeral cell n := by
        intro n hle hnumeral
        cases hword.symm.trans (Number.readNat_eq_ok_iff.2 ⟨hnumeral, hle⟩)
      constructor
      · intro h
        cases hfloat : readFloat cell with
        | none => simp [hfloat] at h
        | some x =>
            simp only [hfloat, Option.ite_none_right_eq_some, Bool.and_eq_true,
              decide_eq_true_eq] at h
            obtain ⟨⟨⟨hfinite, hnonneg⟩, hwhole⟩, hslice⟩ := h
            rw [← Option.some.inj hslice]
            exact .fraction hno hfloat hfinite hnonneg hwhole
      · intro h
        cases h with
        | numeral h hle => exact absurd h (hno slice hle)
        | fraction _ hfloat hfinite hnonneg hwhole => simp [hfloat, hfinite, hnonneg, hwhole]

theorem readSlice?_eq_none_iff {cell : List Char} :
    readSlice? cell = none ↔ ∀ slice, ¬NamesSlice cell slice := by
  simp only [Option.eq_none_iff_forall_ne_some, ne_eq, readSlice?_eq_some_iff]

/-! ### Where the columns and the rows lie -/

theorem idxOf?_eq_some_iff {columns : List String} {position : Nat} :
    columns.idxOf? sliceColumn = some position ↔ SliceColumnAt columns position := by
  rw [List.idxOf?_eq_some_iff, SliceColumnAt]
  simp only [List.getElem?_eq_some_iff, not_exists, ne_eq]
  constructor
  · rintro ⟨hlt, hhere, hbefore⟩
    exact ⟨⟨hlt, hhere⟩, fun before hlater _ => hbefore before hlater⟩
  · rintro ⟨⟨hlt, hhere⟩, hbefore⟩
    exact ⟨hlt, hhere, fun before hlater => hbefore before hlater (Nat.lt_trans hlater hlt)⟩

theorem trailing_eq_iff {rows : Nat} {data window : List (List Char)} :
    trailing rows data = window ↔ Counting rows data window := by
  rw [trailing, Counting, List.suffix_iff_eq_drop]
  constructor
  · rintro rfl
    have hlength : (data.drop (data.length - rows)).length = min rows data.length := by
      rw [List.length_drop]
      omega
    refine ⟨?_, hlength⟩
    rw [hlength]
    congr 1
    omega
  · rintro ⟨hdrop, hlength⟩
    rw [hdrop, hlength]
    congr 1
    omega

/-! ### A row by its positions -/

/-- Two lists cut into pairs, with the position of each pair, are looked up at every position. -/
theorem zipIdx_zip {α β : Type} (as : List α) (bs : List β) (n : Nat) :
    (as.zip bs).zipIdx n = (List.range as.length).filterMap fun i =>
      as[i]?.bind fun a => bs[i]?.map fun b => ((a, b), n + i) := by
  induction as generalizing bs n with
  | nil => simp
  | cons a as ih =>
      cases bs with
      | nil => simp
      | cons b bs =>
          rw [List.zip_cons_cons, List.zipIdx_cons, ih, List.length_cons, List.range_succ_eq_map,
            List.filterMap_cons_some (by simp; rfl), List.filterMap_map]
          simp [Nat.add_assoc, Nat.add_comm 1]

theorem isMetric_iff {slicePosition position : Nat} {name : String} :
    isMetric slicePosition position name = true ↔
      position ≠ slicePosition ∧ name ≠ timeColumn ∧ name ≠ "" := by
  simp only [isMetric, Bool.and_eq_true, decide_eq_true_eq]
  constructor
  · rintro ⟨⟨hname, hposition⟩, htime⟩
    exact ⟨hposition, htime, hname⟩
  · rintro ⟨hposition, htime, hname⟩
    exact ⟨⟨hname, hposition⟩, htime⟩

/-- **The samples of a metric in a row** stand at the positions of the metric. -/
theorem valuesOf_rowSamples (columns : List String) (slicePosition : Nat) (metric : String)
    (row : List Char) : valuesOf metric (rowSamples columns slicePosition row)
      = (metricPositions columns slicePosition metric).filterMap (sampleAt? row) := by
  rw [valuesOf, rowSamples, zipIdx_zip, List.filterMap_filterMap, List.filterMap_filterMap,
    metricPositions, List.filterMap_filter]
  refine List.filterMap_congr fun position hposition => ?_
  obtain ⟨name, hname⟩ : ∃ name, columns[position]? = some name :=
    ⟨_, List.getElem?_eq_getElem (List.mem_range.1 hposition)⟩
  -- A row may end before the column; where it does not, only the heading of the column matters.
  cases hcell : (cells row)[position]? with
  | none => simp [hname, sampleAt?, hcell]
  | some cell =>
      have hsample : sampleAt? row position = readSample? cell := by
        rw [sampleAt?, hcell]
        rfl
      by_cases hmetric : name = metric
      · subst hmetric
        by_cases hkind : isMetric slicePosition position name = true
        · have hposition := isMetric_iff.1 hkind
          cases hvalue : readSample? cell <;> simp [hname, hkind, hposition, hsample, hvalue]
        · have hposition := mt isMetric_iff.2 hkind
          simp [hname, hkind, hposition]
      · cases hkind : isMetric slicePosition position name <;>
          cases hvalue : readSample? cell <;> simp [hname, hkind, hmetric, hvalue]

/-- The samples of a metric in some rows. -/
theorem valuesOf_flatMap (columns : List String) (slicePosition : Nat) (metric : String)
    (window : List (List Char)) :
    valuesOf metric (window.flatMap (rowSamples columns slicePosition))
      = columnSamples columns slicePosition metric window := by
  induction window with
  | nil => rfl
  | cons row rest ih =>
      rw [List.flatMap_cons, valuesOf_append, valuesOf_rowSamples, ih]
      rfl

/-! ### What a table says -/

theorem read_eq (user : String) (rows : Nat) (content : String) : read user rows content =
    match nonBlankLines content with
    | [] => .ok none
    | header :: data =>
      match (columns header).idxOf? sliceColumn with
      | none => .error .noSliceColumn
      | some position =>
        match trailing rows data with
        | [] => .ok none
        | first :: more =>
          match readSlice? (sliceCell first position) with
          | none => .error (.sliceCell (String.ofList (sliceCell first position)))
          | some slice => .ok (some ((UserRecord.empty user slice).fill
              ((first :: more).flatMap (rowSamples (columns header) position)))) := by
  unfold read
  simp only [sliceCell, List.getD_eq_getElem?_getD]
  rfl

/-- A record holds the samples of some rows exactly if it holds those of each column. -/
theorem holds_rows_iff {u : UserRecord} {columns : List String} {position : Nat}
    {window : List (List Char)} :
    u.Holds (window.flatMap (rowSamples columns position)) ↔
      ∀ metric values, u.samples.get? metric = some values ↔
        values = columnSamples columns position metric window ∧ values ≠ [] := by
  simp only [UserRecord.Holds, valuesOf_flatMap]

/-- What is read is what the table says. -/
theorem tells_read (user : String) (rows : Nat) (content : String) :
    Tells user rows (nonBlankLines content) (read user rows content) := by
  rw [read_eq]
  split
  · rename_i hlines
    rw [hlines]
    exact .noHeader
  · rename_i header data hlines
    rw [hlines]
    split
    · rename_i hcolumn
      exact .noSliceColumn (List.idxOf?_eq_none_iff.1 hcolumn)
    · rename_i position hcolumn
      have hcolumn := idxOf?_eq_some_iff.1 hcolumn
      split
      · rename_i hrows
        exact .noRow hcolumn (trailing_eq_iff.1 hrows)
      · rename_i first more hrows
        have hrows := trailing_eq_iff.1 hrows
        split
        · rename_i hcell
          exact .noSlice hcolumn hrows (readSlice?_eq_none_iff.1 hcell)
        · rename_i slice hcell
          refine .record hcolumn hrows ?_ (UserRecord.user_fill ..)
            (holds_rows_iff.1 (UserRecord.holds_fill _ _ _))
          rw [UserRecord.slice_fill]
          exact readSlice?_eq_some_iff.1 hcell

/-- A table says one thing. -/
theorem read_of_tells {user : String} {rows : Nat} {content : String}
    {answer : Except TableFault (Option UserRecord)}
    (h : Tells user rows (nonBlankLines content) answer) : read user rows content = answer := by
  rw [read_eq]
  generalize nonBlankLines content = lines at h
  cases h with
  | noHeader => rfl
  | noSliceColumn hcolumn =>
      simp only [List.idxOf?_eq_none_iff.2 hcolumn]
  | noRow hcolumn hrows =>
      simp only [idxOf?_eq_some_iff.2 hcolumn, trailing_eq_iff.2 hrows]
  | noSlice hcolumn hrows hcell =>
      simp only [idxOf?_eq_some_iff.2 hcolumn, trailing_eq_iff.2 hrows,
        readSlice?_eq_none_iff.2 hcell]
  | record hcolumn hrows hcell huser hsamples =>
      simp only [idxOf?_eq_some_iff.2 hcolumn, trailing_eq_iff.2 hrows,
        readSlice?_eq_some_iff.2 hcell]
      have hheld := holds_rows_iff.2 hsamples
      rw [(UserRecord.holds_fill _ _ _).ext hheld ((UserRecord.user_fill ..).trans huser.symm)
        (UserRecord.slice_fill ..)]

theorem read_eq_iff_tells {user : String} {rows : Nat} {content : String}
    {answer : Except TableFault (Option UserRecord)} :
    read user rows content = answer ↔ Tells user rows (nonBlankLines content) answer :=
  ⟨fun h => h ▸ tells_read user rows content, read_of_tells⟩

/-- A record that is read is one of the user it was read for, with the samples of the columns. -/
theorem of_read_eq_some {user : String} {rows : Nat} {content : String} {u : UserRecord}
    (h : read user rows content = .ok (some u)) :
    u.user = user ∧ ∃ header data position window, nonBlankLines content = header :: data ∧
      SliceColumnAt (columns header) position ∧ Counting rows data window ∧
      ∀ metric values, u.samples.get? metric = some values ↔
        values = columnSamples (columns header) position metric window ∧ values ≠ [] := by
  have htells := read_eq_iff_tells.1 h
  generalize nonBlankLines content = lines at htells
  cases htells with
  | record hcolumn hrows _ huser hsamples =>
      exact ⟨huser, _, _, _, _, rfl, hcolumn, hrows, hsamples⟩

/-- **What is read of a table** is what its lines say: nothing without a header or without a row
that counts, a fault without a slice column or without a slice in the first row that counts, and
else the record of that slice with the samples of each metric column by column.  Rows before those
that count have no part in it, whatever they hold. -/
theorem read_trailing_rows (user : String) (rows : Nat) (content : String) :
    (∀ answer, read user rows content = answer ↔ Tells user rows (nonBlankLines content) answer) ∧
      ∀ other header data data' window, nonBlankLines content = header :: data →
        nonBlankLines other = header :: data' → Counting rows data window →
        Counting rows data' window → read user rows other = read user rows content := by
  refine ⟨fun answer => read_eq_iff_tells, ?_⟩
  intro other header data data' window hlines hlines' hrows hrows'
  rw [read_eq, read_eq, hlines, hlines']
  simp only [trailing_eq_iff.2 hrows, trailing_eq_iff.2 hrows']

/-- Of four rows two count, and of six columns the second and the fourth hold the load.  The rows
before, one of them without a slice, may as well be missing; where that one is the last row and the
only one that counts, the table is refused. -/
theorem read_trailing_rows_of_ragged_table :
    let header := "Timestamp, load ,slice_id,load,,slice_id"
    let window := ["7,2.5, +12 ,3,9,4,8", "8,,?,nan"]
    let content := header ++ "\ngarbage\n \n1,9,none,?\n7,2.5, +12 ,3,9,4,8\r\n8,,?,nan\n"
    let other := header ++ "\n7,2.5, +12 ,3,9,4,8\n8,,?,nan"
    let spoilt := header ++ "\n7,2.5,12\n1,9,none,?\n"
    Counting 2 (["garbage", "1,9,none,?"] ++ window |>.map String.toList)
        (window.map String.toList) ∧
      read "u" 2 content
        = .ok (some ⟨"u", 12, .ofList [("load", [2.5, 3.0]), ("slice_id", [4.0])]⟩) ∧
      Tells "u" 2 (nonBlankLines content) (read "u" 2 content) ∧
      read "u" 2 other = read "u" 2 content ∧
      Tells "u" 1 (nonBlankLines spoilt) (.error (.sliceCell "none")) ∧
      (∀ slice, ¬NamesSlice "none".toList slice) ∧ NamesSlice "+12".toList 12 := by
  intro header window content other spoilt
  obtain ⟨htells, hlast⟩ := read_trailing_rows "u" 2 content
  have hrows : Counting 2 (["garbage", "1,9,none,?"] ++ window |>.map String.toList)
      (window.map String.toList) := by decide +kernel
  have hother : read "u" 2 other = read "u" 2 content :=
    hlast other header.toList _ _ _ (by decide +kernel) (by decide +kernel) hrows
      (by decide +kernel : Counting 2 (window.map String.toList) _)
  have hspoilt : read "u" 1 spoilt = .error (.sliceCell "none") := by decide +kernel
  exact ⟨hrows, by decide +kernel, (htells _).1 rfl, hother,
    ((read_trailing_rows "u" 1 spoilt).1 _).1 hspoilt,
    readSlice?_eq_none_iff.1 (by decide +kernel), readSlice?_eq_some_iff.1 (by decide +kernel)⟩

end RanSlicing.MetricsTable
