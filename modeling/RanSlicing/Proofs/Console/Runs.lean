/-
What the runs of a mask tell.

The units of a mask are taken from the highest down, and each one either joins the run that begins
right above it or opens a run of its own below the others.  So the runs ascend, a unit that is not
held lies between any two of them (`Exact.extend`), and no fewer runs would tell the same
(`Exact.length_le`).

The numeral of a unit holds neither the comma between two runs nor the dash inside of one.  The
text of the runs therefore comes apart at its commas into what each run spells, and nothing else
can be read from it (`listed_iff`).
-/
import Mathlib.Data.List.Forall2
import Mathlib.Data.List.Perm.Subperm
import RanSlicing.Console.Runs
import RanSlicing.Proofs.Mask.Units
import RanSlicing.Proofs.Number.Integer

namespace RanSlicing

open Number

namespace Run

/-- The unit lies in the run. -/
def Has (r : Run) (unit : Nat) : Prop := r.first ≤ unit ∧ unit ≤ r.last

/-- Just the units that are held lie in the runs. -/
def Cover (held : Nat → Prop) (runs : List Run) : Prop :=
  ∀ unit, held unit ↔ ∃ r ∈ runs, r.Has unit

/-- The runs of the units that are held, each one as long as it can be. -/
structure Exact (held : Nat → Prop) (runs : List Run) : Prop where
  ordered : ∀ r ∈ runs, r.first ≤ r.last
  /-- The runs ascend, and between two of them lies a unit that is not held. -/
  apart : runs.Pairwise fun r s => ∃ unit, r.last < unit ∧ unit < s.first ∧ ¬held unit
  covers : Cover held runs

/-! ### From the highest unit down -/

section

variable {held : Nat → Prop} {runs : List Run} {unit : Nat}

theorem Exact.held_first (h : Exact held runs) {r : Run} (hr : r ∈ runs) : held r.first :=
  (h.covers r.first).2 ⟨r, hr, Nat.le_refl _, h.ordered r hr⟩

theorem Exact.first_le {run : Run} (h : Exact held (run :: runs)) {r : Run}
    (hr : r ∈ run :: runs) : run.first ≤ r.first := by
  rcases List.mem_cons.1 hr with rfl | hlater
  · exact Nat.le_refl _
  · obtain ⟨gap, hafter, hbefore, -⟩ := List.rel_of_pairwise_cons h.apart hlater
    have := h.ordered run List.mem_cons_self
    omega

/-- What lies between the runs is not held if a unit below them all is added. -/
theorem Exact.apart_below (h : Exact held runs) (hlow : ∀ v, held v → unit < v) :
    runs.Pairwise fun r s => ∃ v, r.last < v ∧ v < s.first ∧ ¬(v = unit ∨ held v) := by
  refine h.apart.imp_of_mem fun {r s} hr _ ⟨gap, hafter, hbefore, hgap⟩ => ?_
  have := hlow r.first (h.held_first hr)
  have := h.ordered r hr
  exact ⟨gap, hafter, hbefore, not_or.2 ⟨by omega, hgap⟩⟩

/-- **A unit that is lower than all others keeps the runs exact.** -/
theorem Exact.extend (h : Exact held runs) (hlow : ∀ v, held v → unit < v) :
    Exact (fun v => v = unit ∨ held v) (extend unit runs) := by
  have hapart := h.apart_below hlow
  cases runs with
  | nil =>
      refine ⟨by simp [Run.extend], List.pairwise_singleton _ _, fun v => ?_⟩
      have hnone : ¬held v := fun hv => by simpa using (h.covers v).1 hv
      simp only [Run.extend, Has, List.mem_singleton, exists_eq_left, hnone, or_false]
      omega
  | cons run rest =>
      have hbelow : unit < run.first := hlow run.first (h.held_first List.mem_cons_self)
      have hrun : run.first ≤ run.last := h.ordered run List.mem_cons_self
      obtain ⟨hfirst, hrest⟩ := List.pairwise_cons.1 hapart
      by_cases hnext : unit + 1 = run.first
      · rw [Run.extend, if_pos hnext]
        refine ⟨?_, List.pairwise_cons.2 ⟨hfirst, hrest⟩, fun v => ?_⟩
        · refine List.forall_mem_cons.2 ⟨?_, (List.forall_mem_cons.1 h.ordered).2⟩
          show unit ≤ run.last
          omega
        · rw [h.covers v, List.exists_mem_cons_iff, List.exists_mem_cons_iff, ← or_assoc]
          refine or_congr_left ?_
          simp only [Has]
          omega
      · rw [Run.extend, if_neg hnext]
        refine ⟨List.forall_mem_cons.2 ⟨Nat.le_refl _, h.ordered⟩, ?_, fun v => ?_⟩
        · refine List.pairwise_cons.2 ⟨fun s hs => ⟨unit + 1, by simp, ?_, ?_⟩, hapart⟩
          · have := h.first_le hs
            omega
          · rintro (hsame | hheld)
            · omega
            · obtain ⟨r, hr, hle, -⟩ := (h.covers _).1 hheld
              have := h.first_le hr
              omega
        · rw [h.covers v]
          refine Iff.trans (or_congr_left ?_) (List.exists_mem_cons_iff _ _ _).symm
          simp only [Has]
          omega

/-- Whatever runs cover the same units, there are no fewer of them.  No run of a cover reaches
across a unit that is not held, so the lowest units of the exact runs lie in different ones. -/
theorem Exact.length_le (h : Exact held runs) {cover : List Run} (hcover : Cover held cover) :
    runs.length ≤ cover.length := by
  have hin : ∀ r, ∃ c : Run, r ∈ runs → c ∈ cover ∧ c.Has r.first := by
    intro r
    by_cases hr : r ∈ runs
    · obtain ⟨c, hc, hhas⟩ := (hcover r.first).1 (h.held_first hr)
      exact ⟨c, fun _ => ⟨hc, hhas⟩⟩
    · exact ⟨r, fun hmem => absurd hmem hr⟩
  choose into hinto using hin
  have hnodup : (runs.map into).Nodup := by
    refine List.pairwise_map.2 (h.apart.imp_of_mem fun {r s} hr hs hgap hsame => ?_)
    obtain ⟨gap, hafter, hbefore, hfree⟩ := hgap
    obtain ⟨hmem, hlow, -⟩ := hinto r hr
    obtain ⟨-, -, hhigh⟩ := hinto s hs
    rw [← hsame] at hhigh
    have := h.ordered r hr
    exact hfree ((hcover gap).2 ⟨into r, hmem, by omega, by omega⟩)
  have hsubset : runs.map into ⊆ cover := by
    intro c hc
    obtain ⟨r, hr, rfl⟩ := List.mem_map.1 hc
    exact (hinto r hr).1
  have hle := (hnodup.subperm hsubset).length_le
  rwa [List.length_map] at hle

end

theorem exact_ofUnits {units : List Nat} (h : units.Pairwise (· < ·)) :
    Exact (· ∈ units) (ofUnits units) := by
  induction units with
  | nil => exact ⟨by simp [ofUnits], List.Pairwise.nil, by simp [Cover, ofUnits]⟩
  | cons unit rest ih =>
      obtain ⟨hlow, hrest⟩ := List.pairwise_cons.1 h
      simp only [List.mem_cons]
      exact (ih hrest).extend hlow

/-! ### What a text spells -/

/-- What a piece between two commas spells. -/
inductive Spells (piece : List Char) : Run → Prop
  | unit {unit : Nat} (h : Digits piece unit) : Spells piece ⟨unit, unit⟩
  | ends {front back : List Char} {first last : Nat} (hpiece : piece = front ++ '-' :: back)
      (hfront : Digits front first) (hback : Digits back last) (h : first < last) :
      Spells piece ⟨first, last⟩

/-- The runs that the pieces between the commas spell. -/
def Listed (text : String) (runs : List Run) : Prop :=
  List.Forall₂ Spells (text.toList.splitOn ',') runs

theorem dash_not_mem_of_digits {cs : List Char} {n : Nat} (h : Digits cs n) : '-' ∉ cs :=
  fun hmem => absurd (h.digits '-' hmem) (by decide)

/-- A piece spells one run at most. -/
theorem spells_rightUnique : Relator.RightUnique Spells := by
  intro piece r s hr hs
  cases hr with
  | unit h =>
      cases hs with
      | unit h' => rw [← h.value, ← h'.value]
      | ends hpiece => exact absurd (by simp [hpiece]) (dash_not_mem_of_digits h)
  | @ends front back _ _ hpiece hfront hback =>
      cases hs with
      | unit h => exact absurd (by simp [hpiece]) (dash_not_mem_of_digits h)
      | @ends front' back' _ _ hpiece' hfront' hback' =>
          have hcut : Text.splitOnce ['-'] piece = some (front, back) := by
            rw [hpiece]
            exact Text.splitOnce_char (dash_not_mem_of_digits hfront) back
          rw [hpiece', Text.splitOnce_char (dash_not_mem_of_digits hfront')] at hcut
          obtain ⟨rfl, rfl⟩ := Prod.mk.inj (Option.some.inj hcut)
          rw [← hfront.value, ← hfront'.value, ← hback.value, ← hback'.value]

/-- A dash alone spells no run. -/
theorem not_spells_dash {r : Run} : ¬Spells ['-'] r := by
  intro h
  cases h with
  | unit h => exact dash_not_mem_of_digits h List.mem_cons_self
  | @ends front back _ _ hpiece hfront hback =>
      have hlength := congrArg List.length hpiece
      have := List.length_pos_iff.2 hfront.notEmpty
      simp only [List.length_append, List.length_cons, List.length_nil] at hlength
      omega

theorem not_listed_dash {runs : List Run} : ¬Listed "-" runs := by
  intro h
  have hpieces : "-".toList.splitOn ',' = [['-']] := by decide
  rw [Listed, hpieces] at h
  obtain ⟨r, -, hspells, -⟩ := List.forall₂_cons_left_iff.1 h
  exact not_spells_dash hspells

/-- The text of a run spells it. -/
theorem spells_text {r : Run} (h : r.first ≤ r.last) : Spells r.text.toList r := by
  obtain ⟨first, last⟩ := r
  rw [text]
  split
  · rename_i hsame
    obtain rfl : first = last := hsame
    exact .unit (digits_natText first)
  · rename_i hne
    refine .ends ?_ (digits_natText first) (digits_natText last) (Nat.lt_of_le_of_ne h hne)
    simp

theorem comma_not_mem_text (r : Run) : ',' ∉ r.text.toList := by
  have hnumeral : ∀ n, ',' ∉ (natText n).toList := fun n hmem =>
    absurd (isDigit_of_mem_natText hmem) (by decide)
  rw [text]
  split
  · exact hnumeral r.first
  · simp [hnumeral]

end Run

namespace Mask

open Run (Exact Listed Spells)

/-! ### The text of the runs -/

theorem exact_runs (m : Mask) : Exact (m.isSet · = true) m.runs := by
  have h := Run.exact_ofUnits (units_pairwise m)
  simp only [mem_units] at h
  exact h

theorem runs_eq_nil_iff {m : Mask} : m.runs = [] ↔ ∀ unit, m.isSet unit = false := by
  constructor
  · intro hnil unit
    have hcover := (exact_runs m).covers unit
    rw [hnil] at hcover
    simpa using hcover
  · intro h
    refine List.eq_nil_iff_forall_not_mem.2 fun r hr => ?_
    exact absurd ((exact_runs m).held_first hr) (Bool.eq_false_iff.1 (h r.first))

theorem runsText_of_nil {m : Mask} (h : m.runs = []) : m.runsText = "-" := by
  rw [runsText, h]
  rfl

theorem splitOn_runsText {m : Mask} (h : m.runs ≠ []) :
    m.runsText.toList.splitOn ',' = m.runs.map (·.text.toList) := by
  rw [runsText, if_neg (by simpa using h), String.toList_intercalate, List.map_map]
  refine List.splitOn_intercalate ',' (fun piece hpiece => ?_) (by simpa using h)
  obtain ⟨r, -, rfl⟩ := List.mem_map.1 hpiece
  exact Run.comma_not_mem_text r

/-- **The runs of a mask are what its text lists, and nothing else can be read from it.** -/
theorem listed_iff {m : Mask} (h : m.runs ≠ []) {runs : List Run} :
    Listed m.runsText runs ↔ runs = m.runs := by
  have hself : Listed m.runsText m.runs := by
    rw [Listed, splitOn_runsText h, List.forall₂_map_left_iff, List.forall₂_same]
    exact fun r hr => Run.spells_text ((exact_runs m).ordered r hr)
  constructor
  · exact fun hlisted => Run.spells_rightUnique.forall₂ hlisted hself
  · rintro rfl
    exact hself

theorem runsText_eq_dash_iff {m : Mask} : m.runsText = "-" ↔ m.runs = [] := by
  refine ⟨fun hdash => ?_, runsText_of_nil⟩
  by_contra hne
  have hlisted := (listed_iff hne).2 rfl
  rw [hdash] at hlisted
  exact Run.not_listed_dash hlisted

/-- Masks with the same text have the same runs. -/
theorem runs_eq_of_runsText_eq {m n : Mask} (h : m.runsText = n.runsText) : m.runs = n.runs := by
  by_cases hm : m.runs = []
  · rw [hm, runsText_eq_dash_iff.1 (h ▸ runsText_of_nil hm)]
  · have hn : n.runs ≠ [] := fun hnil => hm (runsText_eq_dash_iff.1 (h.trans (runsText_of_nil hnil)))
    exact (listed_iff hn).1 (h ▸ (listed_iff hm).2 rfl)

/-- What the text of its runs tells of a mask. -/
structure ToldByRuns (m : Mask) : Prop where
  /-- It is a dash exactly if no unit is held. -/
  dash : m.runsText = "-" ↔ ∀ unit, m.isSet unit = false
  /-- Otherwise its pieces spell the runs of the units that are held, and spell no other runs. -/
  runs : m.runsText ≠ "-" → ∃ runs, (∀ others, Listed m.runsText others ↔ others = runs) ∧
    Exact (m.isSet · = true) runs ∧
    ∀ cover, Run.Cover (m.isSet · = true) cover → runs.length ≤ cover.length

/-- **The text of its runs tells a mask, in as few runs as there can be.**  It is read back to the
units that are held, so among masks of one width it belongs to one alone. -/
theorem told_by_runs :
    (∀ m : Mask, m.ToldByRuns) ∧
      ∀ m n : Mask, m.width = n.width → (m.runsText = n.runsText ↔ m = n) := by
  refine ⟨fun m => ⟨runsText_eq_dash_iff.trans runs_eq_nil_iff, fun htext => ?_⟩,
    fun m n hwidth => ⟨fun htext => ?_, congrArg runsText⟩⟩
  · have hne : m.runs ≠ [] := mt runsText_eq_dash_iff.2 htext
    exact ⟨m.runs, fun others => listed_iff hne, exact_runs m,
      fun cover => (exact_runs m).length_le⟩
  · refine ext_isSet hwidth fun unit => ?_
    rw [Bool.eq_iff_iff]
    calc m.isSet unit = true
        ↔ ∃ r ∈ m.runs, r.Has unit := (exact_runs m).covers unit
      _ ↔ ∃ r ∈ n.runs, r.Has unit := by rw [runs_eq_of_runsText_eq htext]
      _ ↔ n.isSet unit = true := ((exact_runs n).covers unit).symm

/-- Two masks of one width and three units each, with a gap in another place; two runs are the
fewest that tell the first of them. -/
theorem told_by_runs_of_split_units :
    runsText ⟨[true, true, false, true]⟩ = "0-1,3" ∧
      runsText ⟨[true, false, true, true]⟩ = "0,2-3" ∧
      (runsText ⟨[true, true, false, true]⟩ = runsText ⟨[true, false, true, true]⟩ ↔
        Mask.mk [true, true, false, true] = ⟨[true, false, true, true]⟩) ∧
      ∀ cover, Run.Cover (isSet ⟨[true, true, false, true]⟩ · = true) cover →
        2 ≤ cover.length := by
  have htext : runsText ⟨[true, true, false, true]⟩ = "0-1,3" := by decide +kernel
  have hdash : runsText ⟨[true, true, false, true]⟩ ≠ "-" := by
    rw [htext]
    decide
  obtain ⟨runs, hlisted, -, hfewest⟩ := (told_by_runs.1 ⟨[true, true, false, true]⟩).runs hdash
  have hlength := ((hlisted runs).2 rfl).length_eq
  have hpieces : ("0-1,3".toList.splitOn ',').length = 2 := by decide
  rw [htext, hpieces] at hlength
  exact ⟨htext, by decide +kernel, told_by_runs.2 _ _ rfl, fun cover h => hlength ▸ hfewest cover h⟩

end Mask

end RanSlicing
