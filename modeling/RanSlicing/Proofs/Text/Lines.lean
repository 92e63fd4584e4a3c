/-
Lines come back from the text they are written to.

A line feed ends a line and takes the carriage return before it along.  Lines that hold no line
feed are therefore read back from their text one for one, each without the carriage return it may
end with, and nothing that is read without its blanks can tell the difference.

A separator cuts a text at the first place where it stands (`splitOnce_eq_some_iff`).
-/
import Mathlib.Data.List.Basic
import RanSlicing.Proofs.Text.Blank
import RanSlicing.Text.Split

namespace RanSlicing.Text

/-! ### The end of a line -/

theorem trim_closeLine (begun : List Char) : trim (closeLine begun) = trim begun.reverse := by
  unfold closeLine
  split
  · rw [List.reverse_cons, trim_append_blanks _ (List.forall_mem_singleton.2 (by decide))]
  · rfl

/-- A line without carriage returns is closed as it is. -/
theorem closeLine_reverse {line : List Char} (h : '\r' ∉ line) : closeLine line.reverse = line := by
  unfold closeLine
  split
  · rename_i begun hbegun
    refine absurd ?_ h
    rw [← List.mem_reverse, hbegun]
    exact List.mem_cons_self
  · exact List.reverse_reverse line

/-! ### Lines -/

theorem linesFrom_append_newline {line : List Char} (h : '\n' ∉ line) (rest : List Char) :
    ∀ begun : List Char,
      linesFrom begun (line ++ '\n' :: rest)
        = closeLine (line.reverse ++ begun) :: linesFrom [] rest := by
  induction line with
  | nil => intro begun; rfl
  | cons c cs ih =>
      intro begun
      obtain ⟨hc, hcs⟩ := not_or.1 (mt List.mem_cons.2 h)
      rw [List.cons_append, linesFrom, if_neg (Ne.symm hc), ih hcs]
      simp

/-- **Lines that were written are read**, but for a carriage return at their ends. -/
theorem lines_flatMap {ls : List (List Char)} (h : ∀ line ∈ ls, '\n' ∉ line) :
    lines (ls.flatMap (· ++ ['\n'])) = ls.map fun line => closeLine line.reverse := by
  induction ls with
  | nil => rfl
  | cons line rest ih =>
      have hrest := ih fun l hl => h l (List.mem_cons_of_mem _ hl)
      rw [List.flatMap_cons, List.append_assoc, List.singleton_append, lines,
        linesFrom_append_newline (h line (by simp)), List.append_nil, List.map_cons]
      rw [lines] at hrest
      rw [hrest]

/-- Between the line feeds of such a text its lines stand as they are. -/
theorem splitOn_flatMap {ls : List (List Char)} (h : ∀ line ∈ ls, '\n' ∉ line) :
    (ls.flatMap (· ++ ['\n'])).splitOn '\n' = ls ++ [[]] := by
  induction ls with
  | nil => rfl
  | cons line rest ih =>
      obtain ⟨hline, hrest⟩ := List.forall_mem_cons.1 h
      rw [List.flatMap_cons, List.append_assoc, List.singleton_append,
        List.splitOn_append_cons_self, List.splitOn_eq_singleton hline, ih hrest]
      rfl

theorem not_mem_closeLine {begun : List Char} (h : '\n' ∉ begun) : '\n' ∉ closeLine begun := by
  unfold closeLine
  split
  · intro hmem
    exact h (List.mem_cons_of_mem _ (List.mem_reverse.1 hmem))
  · intro hmem
    exact h (List.mem_reverse.1 hmem)

theorem not_mem_linesFrom :
    ∀ {cs begun line : List Char}, '\n' ∉ begun → line ∈ linesFrom begun cs → '\n' ∉ line := by
  intro cs
  induction cs with
  | nil =>
      intro begun line hbegun hline
      simp only [linesFrom] at hline
      split at hline
      · simp at hline
      · rw [List.mem_singleton.1 hline, List.mem_reverse]
        exact hbegun
  | cons c rest ih =>
      intro begun line hbegun hline
      simp only [linesFrom] at hline
      split at hline
      · rcases List.mem_cons.1 hline with rfl | hline
        · exact not_mem_closeLine hbegun
        · exact ih (by simp) hline
      · rename_i hc
        exact ih (by simp [hbegun, Ne.symm hc]) hline

/-- No line holds a line feed. -/
theorem not_mem_of_mem_lines {cs line : List Char} (h : line ∈ lines cs) : '\n' ∉ line :=
  not_mem_linesFrom (by simp) h

/-! ### Cutting once -/

/-- The text is cut in two at the first place where `sep` stands. -/
structure CutsAt (sep cs before after : List Char) : Prop where
  parts : cs = before ++ sep ++ after
  first : ∀ i < before.length, ¬sep <+: cs.drop i

/-- **A text is cut at the first place where the separator stands.** -/
theorem splitOnce_eq_some_iff {sep : List Char} (hsep : sep ≠ []) {cs : List Char} :
    ∀ {before after : List Char},
      splitOnce sep cs = some (before, after) ↔ CutsAt sep cs before after := by
  induction cs with
  | nil =>
      intro before after
      rw [splitOnce, if_neg hsep]
      refine iff_of_false (by simp) fun h => hsep ?_
      have hnil := h.parts.symm
      simp only [List.append_eq_nil_iff] at hnil
      exact hnil.1.2
  | cons c rest ih =>
      intro before after
      rw [splitOnce]
      split
      · rename_i hstart
        rw [List.isPrefixOf_iff_prefix] at hstart
        obtain ⟨others, hothers⟩ := hstart
        constructor
        · intro h
          obtain ⟨rfl, rfl⟩ := Prod.mk.inj (Option.some.inj h)
          exact ⟨by rw [← hothers]; simp, by simp⟩
        · rintro ⟨hparts, hfirst⟩
          cases before with
          | nil => rw [hparts]; simp
          | cons b front =>
              exact absurd ⟨others, hothers⟩ (hfirst 0 (by simp))
      · rename_i hstart
        rw [List.isPrefixOf_iff_prefix] at hstart
        rw [Option.map_eq_some_iff]
        constructor
        · rintro ⟨⟨front, back⟩, hrest, heq⟩
          obtain ⟨rfl, rfl⟩ := Prod.mk.inj heq
          obtain ⟨hparts, hfirst⟩ := ih.1 hrest
          refine ⟨by rw [hparts]; rfl, fun i hi => ?_⟩
          cases i with
          | zero => exact hstart
          | succ i => exact hfirst i (Nat.lt_of_succ_lt_succ hi)
        · rintro ⟨hparts, hfirst⟩
          cases before with
          | nil => exact absurd ⟨after, hparts.symm⟩ hstart
          | cons b front =>
              obtain ⟨rfl, hrest⟩ := List.cons.inj hparts
              exact ⟨(front, after), ih.2 ⟨hrest, fun i hi => hfirst (i + 1) (Nat.succ_lt_succ hi)⟩,
                rfl⟩

/-- A text is cut at a separator whose first character does not occur before. -/
theorem splitOnce_of_not_mem {c : Char} {rest before : List Char} (h : c ∉ before)
    (after : List Char) :
    splitOnce (c :: rest) (before ++ (c :: rest) ++ after) = some (before, after) := by
  refine (splitOnce_eq_some_iff (by simp)).2 ⟨rfl, fun i hi hstart => h ?_⟩
  rw [List.append_assoc, List.drop_append_of_le_length (Nat.le_of_lt hi),
    List.drop_eq_getElem_cons hi] at hstart
  rw [(List.cons_prefix_cons.1 hstart).1]
  exact List.getElem_mem hi

/-- At a single character a text is cut where it stands first. -/
theorem splitOnce_char {c : Char} {before : List Char} (h : c ∉ before) (after : List Char) :
    splitOnce [c] (before ++ c :: after) = some (before, after) := by
  have hcut : splitOnce [c] (before ++ [c] ++ after) = some (before, after) :=
    splitOnce_of_not_mem h after
  rwa [List.append_assoc, List.singleton_append] at hcut

theorem splitOnce_char_eq_none {c : Char} {cs : List Char} (h : c ∉ cs) :
    splitOnce [c] cs = none := by
  rw [Option.eq_none_iff_forall_ne_some]
  rintro ⟨before, after⟩ hcut
  refine h ?_
  rw [((splitOnce_eq_some_iff (by simp)).1 hcut).parts]
  simp

end RanSlicing.Text
