/-
The text of a range, and what may be lost on the way back.

The dash between the two ends of a range is also the minus sign of an end.  A text is cut at its
first dash, so what stands before it has no sign: whatever a text spells begins at a unit or asks
for nothing (`Spells.legible`).  The other way round, a range that begins at a unit has its first
dash where it was put, also if it ends below zero, and is read back (`spells_text`).  A range that
begins below zero has nothing before its first dash, which is no number; it is refused and never
taken for another one.
-/
import RanSlicing.Console.Assignment
import RanSlicing.Proofs.Number.Integer
import RanSlicing.Range

namespace RanSlicing

open Number

namespace Range

/-- A range of which both ends are signed words. -/
structure Fits (r : Range) : Prop where
  min : IsWord r.min
  max : IsWord r.max

/-- The range of two signed words. -/
def ofWords (min max : Int64) : Range := ⟨min.toInt, max.toInt⟩

theorem fits_ofWords (min max : Int64) : (ofWords min max).Fits :=
  ⟨⟨min.le_toInt, min.toInt_lt⟩, ⟨max.le_toInt, max.toInt_lt⟩⟩

theorem Fits.exists_ofWords {r : Range} (h : r.Fits) : ∃ min max, r = ofWords min max := by
  refine ⟨.ofInt r.min, .ofInt r.max, ?_⟩
  rw [ofWords, Int64.toInt_ofInt_of_le h.min.ge h.min.lt, Int64.toInt_ofInt_of_le h.max.ge h.max.lt]

/-- A range that can be told from its text: it asks for nothing, or it begins at a unit. -/
def Legible (r : Range) : Prop := r = none ∨ 0 ≤ r.min

instance (r : Range) : Decidable r.Legible :=
  inferInstanceAs (Decidable (r = none ∨ 0 ≤ r.min))

/-! ### What a text spells -/

/-- What a text without blanks around it spells. -/
inductive Spells (whole : List Char) : Range → Prop
  | none (h : whole.map Char.toLower = ['n', 'o', 'n', 'e']) : Spells whole none
  | ends {first last : List Char} {min max : Int} (hwhole : whole = first ++ '-' :: last)
      (hfirst : '-' ∉ first) (hmin : readInt64 (Text.trim first) = .ok min)
      (hmax : readInt64 (Text.trim last) = .ok max) : Spells whole ⟨min, max⟩
  | unit {unit : Int} (hword : whole.map Char.toLower ≠ ['n', 'o', 'n', 'e']) (hdash : '-' ∉ whole)
      (h : readInt64 (Text.trim whole) = .ok unit) : Spells whole ⟨unit, unit⟩

theorem readEnd_eq_ok_iff {whole part : List Char} {i : Int} :
    readEnd whole part = .ok i ↔ readInt64 (Text.trim part) = .ok i :=
  mapError_eq_ok_iff

/-- A text with a dash is not the word for none. -/
theorem map_toLower_ne_none {whole : List Char} (h : '-' ∈ whole) :
    whole.map Char.toLower ≠ ['n', 'o', 'n', 'e'] := by
  intro hnone
  have hdash : '-' ∈ whole.map Char.toLower := List.mem_map.2 ⟨'-', h, by decide⟩
  rw [hnone] at hdash
  exact absurd hdash (by decide)

/-- **What is read of a text is what it spells.** -/
theorem ofText?_eq_ok_iff {t : String} {r : Range} :
    ofText? t = .ok r ↔ Spells (Text.trim t.toList) r := by
  simp only [ofText?]
  generalize Text.trim t.toList = whole
  by_cases hnone : whole.map Char.toLower = ['n', 'o', 'n', 'e']
  · rw [if_pos hnone]
    constructor
    · intro h
      obtain rfl := Except.ok.inj h
      exact .none hnone
    · intro h
      cases h with
      | none => rfl
      | ends hwhole => exact absurd hnone (map_toLower_ne_none (by simp [hwhole]))
      | unit hword => exact absurd hnone hword
  · rw [if_neg hnone]
    by_cases hdash : '-' ∈ whole
    · obtain ⟨before, after, hparts, hbefore⟩ := List.eq_append_cons_of_mem hdash
      have hcut : Text.splitOnce ['-'] whole = some (before, after) := by
        rw [hparts]
        exact Text.splitOnce_char hbefore after
      simp only [hcut]
      constructor
      · intro h
        obtain ⟨min, hmin, hrest⟩ := bind_eq_ok_iff.1 h
        obtain ⟨max, hmax, hpure⟩ := bind_eq_ok_iff.1 hrest
        obtain rfl := Except.ok.inj hpure
        exact .ends hparts hbefore (readEnd_eq_ok_iff.1 hmin) (readEnd_eq_ok_iff.1 hmax)
      · intro h
        cases h with
        | none h => exact absurd h hnone
        | ends hwhole hfirst hmin hmax =>
            rw [hwhole, Text.splitOnce_char hfirst] at hcut
            obtain ⟨rfl, rfl⟩ := Prod.mk.inj (Option.some.inj hcut)
            rw [readEnd_eq_ok_iff.2 hmin, readEnd_eq_ok_iff.2 hmax]
            rfl
        | unit _ hno => exact absurd hdash hno
    · simp only [Text.splitOnce_char_eq_none hdash]
      constructor
      · intro h
        obtain ⟨unit, hunit, hpure⟩ := bind_eq_ok_iff.1 h
        obtain rfl := Except.ok.inj hpure
        exact .unit hnone hdash (readEnd_eq_ok_iff.1 hunit)
      · intro h
        cases h with
        | none h => exact absurd h hnone
        | ends hwhole => exact absurd (by simp [hwhole]) hdash
        | unit _ _ hunit =>
            rw [readEnd_eq_ok_iff.2 hunit]
            rfl

/-- **A text spells the range that asks for nothing, or one that begins at a unit.** -/
theorem Spells.legible {whole : List Char} {r : Range} (h : Spells whole r) :
    r.Legible ∧ r.Fits := by
  cases h with
  | none => exact ⟨.inl rfl, ⟨by decide, by decide⟩, ⟨by decide, by decide⟩⟩
  | ends _ hfirst hmin hmax =>
      have hunsigned : '-' ∉ Text.trim _ := fun hmem => hfirst (Text.mem_of_mem_trim hmem)
      exact ⟨.inr (nonneg_of_readInt64 hmin hunsigned),
        (readInt64_eq_ok_iff.1 hmin).2, (readInt64_eq_ok_iff.1 hmax).2⟩
  | unit _ hdash h =>
      have hunsigned : '-' ∉ Text.trim whole := fun hmem => hdash (Text.mem_of_mem_trim hmem)
      have hword := (readInt64_eq_ok_iff.1 h).2
      exact ⟨.inr (nonneg_of_readInt64 h hunsigned), hword, hword⟩

/-! ### What the text of a range spells -/

theorem toList_text {r : Range} (h : r ≠ none) :
    r.text.toList = (intText r.min).toList ++ '-' :: (intText r.max).toList := by
  have hsome : r.isNone = false := by rwa [isNone, beq_eq_false_iff_ne]
  rw [text, hsome]
  simp

theorem not_isBlank_of_mem_intText {i : Int} {c : Char} (h : c ∈ (intText i).toList) :
    Text.isBlank c = false := by
  rcases mem_intText h with rfl | hdigit
  · decide
  · exact Text.not_isBlank_of_isDigit hdigit

/-- The text of a range has no blanks around it. -/
theorem trim_text (r : Range) : Text.trim r.text.toList = r.text.toList := by
  refine Text.trim_of_forall_not_blank fun c hc => ?_
  by_cases hnone : r = none
  · subst hnone
    have htext : none.text.toList = ['n', 'o', 'n', 'e'] := by decide
    rw [htext] at hc
    simp only [List.mem_cons, List.not_mem_nil, or_false] at hc
    rcases hc with rfl | rfl | rfl | rfl <;> decide
  · rw [toList_text hnone, List.mem_append, List.mem_cons] at hc
    rcases hc with hmin | rfl | hmax
    · exact not_isBlank_of_mem_intText hmin
    · decide
    · exact not_isBlank_of_mem_intText hmax

/-- A number that is not negative is written without a sign. -/
theorem dash_not_mem_intText {i : Int} (h : 0 ≤ i) : '-' ∉ (intText i).toList := by
  rw [intText, if_neg (by omega)]
  exact fun hmem => absurd (isDigit_of_mem_natText hmem) (by decide)

/-- **The text of a legible range spells it.** -/
theorem spells_text {r : Range} (hfits : r.Fits) (h : r.Legible) : Spells r.text.toList r := by
  by_cases hnone : r = none
  · subst hnone
    exact .none (by decide)
  · have hmin : 0 ≤ r.min := h.resolve_left hnone
    have hread : ∀ {i : Int}, IsWord i → readInt64 (Text.trim (intText i).toList) = .ok i := by
      intro i hi
      rw [Text.trim_of_forall_not_blank fun _ hc => not_isBlank_of_mem_intText hc]
      exact readInt64_intText hi
    exact .ends (toList_text hnone) (dash_not_mem_intText hmin) (hread hfits.min) (hread hfits.max)

theorem ofText?_text {r : Range} (hfits : r.Fits) (h : r.Legible) : ofText? r.text = .ok r := by
  rw [ofText?_eq_ok_iff, trim_text]
  exact spells_text hfits h

/-- **A range that begins below zero is refused**: its text begins with the dash. -/
theorem ofText?_text_of_not_legible {r : Range} (h : ¬r.Legible) :
    ofText? r.text = .error (.rangeText r.text .empty) := by
  obtain ⟨hnone, hmin⟩ := not_or.1 h
  have hsign : (intText r.min).toList = '-' :: (natText r.min.natAbs).toList := by
    rw [intText, if_pos (by omega), String.toList_append]
    rfl
  have htext : r.text.toList
      = '-' :: ((natText r.min.natAbs).toList ++ '-' :: (intText r.max).toList) := by
    rw [toList_text hnone, hsign]
    rfl
  have hword : r.text.toList.map Char.toLower ≠ ['n', 'o', 'n', 'e'] :=
    map_toLower_ne_none (by simp [htext])
  have hcut : Text.splitOnce ['-'] r.text.toList
      = some ([], (natText r.min.natAbs).toList ++ '-' :: (intText r.max).toList) := by
    rw [htext]
    exact Text.splitOnce_char List.not_mem_nil _
  simp only [ofText?, trim_text, if_neg hword, hcut]
  rw [readEnd, String.ofList_toList]
  rfl

end Range

/-- The range of a slice is read as it was written. -/
theorem Assignment.readRange_text {slice : Nat} (hslice : slice ≤ wordMax) {r : Range}
    (h : Range.ofText? r.text = .ok r) :
    readRange (natText slice ++ "=" ++ r.text) = .ok (slice, r) := by
  have hequals : '=' ∉ (natText slice).toList := fun hmem =>
    absurd (isDigit_of_mem_natText hmem) (by decide)
  have htext : (natText slice ++ "=" ++ r.text).toList
      = (natText slice).toList ++ '=' :: r.text.toList := by simp
  simp only [readRange, read, htext, Text.splitOnce_char hequals, trim_natText, readWord,
    readNat_natText hslice, Range.trim_text, String.ofList_toList, h]

namespace Range

/-- A range is read back from its text or not at all. -/
structure ReadsBack (r : Range) : Prop where
  /-- If it asks for nothing or begins at a unit, its text gives it back. -/
  alone : r.Legible → ofText? r.text = .ok r
  /-- So does its text behind the number of a slice. -/
  assigned : r.Legible → ∀ slice : UInt64,
    Assignment.readRange (natText slice.toNat ++ "=" ++ r.text) = .ok (slice.toNat, r)
  /-- Any other range is refused. -/
  refused : ¬r.Legible → ofText? r.text = .error (.rangeText r.text .empty)

theorem Fits.readsBack {r : Range} (h : r.Fits) : r.ReadsBack := by
  refine ⟨ofText?_text h, fun hlegible slice => ?_, ofText?_text_of_not_legible⟩
  refine Assignment.readRange_text ?_ (ofText?_text h hlegible)
  have hword : slice.toNat < 18446744073709551616 := slice.toNat_lt
  rw [wordMax]
  omega

/-- **The text of a range never changes its meaning.**  It is read back or refused, whatever words
its ends are, and of any text nothing is read but ranges that are read back. -/
theorem text_keeps_meaning :
    (∀ min max : Int64, (ofWords min max).ReadsBack) ∧
      ∀ (t : String) (r : Range), ofText? t = .ok r →
        r.Legible ∧ ∃ min max : Int64, r = ofWords min max := by
  refine ⟨fun min max => (fits_ofWords min max).readsBack, fun t r ht => ?_⟩
  obtain ⟨hlegible, hfits⟩ := (ofText?_eq_ok_iff.1 ht).legible
  exact ⟨hlegible, hfits.exists_ofWords⟩

/-- The lowest signed word as an upper end is read back, and a lower end of minus one is refused. -/
theorem text_keeps_meaning_at_the_edges :
    let r := ofWords 0 Int64.minValue
    let s := ofWords (-1) 0
    r.text = "0--9223372036854775808" ∧ ofText? r.text = .ok r ∧
      Assignment.readRange "18446744073709551615=0--9223372036854775808"
        = .ok (18446744073709551615, r) ∧
      s.text = "-1-0" ∧ ofText? s.text = .error (.rangeText s.text .empty) := by
  intro r s
  have htext : r.text = "0--9223372036854775808" := by decide +kernel
  have hassigned : natText (UInt64.toNat 18446744073709551615) ++ "=" ++ r.text
      = "18446744073709551615=0--9223372036854775808" := by decide +kernel
  have hr : r.ReadsBack := text_keeps_meaning.1 0 Int64.minValue
  have hs : s.ReadsBack := text_keeps_meaning.1 (-1) 0
  have hslice := hr.assigned (by decide +kernel) 18446744073709551615
  rw [hassigned] at hslice
  exact ⟨htext, hr.alone (by decide +kernel), hslice, by decide +kernel,
    hs.refused (by decide +kernel)⟩

end Range

end RanSlicing
