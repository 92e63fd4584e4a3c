/-
What is left of a text without the blanks around it.

Trimming takes the blanks at the front away and then those at the back.  Said without an order, the
text is what is left with blanks around it, and what is left neither begins nor ends with a blank
(`Trimmed`).  Only one text is left in this sense (`trim_eq_iff`), so blanks that are put around a
text make no difference to what is read of it.
-/
import Mathlib.Data.List.TakeWhile
import RanSlicing.Text.Blank

namespace RanSlicing.Text

/-- What is left of a text without the blanks around it. -/
structure Trimmed (whole core : List Char) : Prop where
  /-- There are only blanks around it. -/
  around : ∃ front back, whole = front ++ core ++ back ∧
    (∀ c ∈ front, isBlank c = true) ∧ ∀ c ∈ back, isBlank c = true
  /-- It does not begin with a blank. -/
  front : ∀ c ∈ core.head?, isBlank c = false
  /-- It does not end with one. -/
  back : ∀ c ∈ core.getLast?, isBlank c = false

/-! ### Blanks around a text -/

theorem trim_append_blanks (cs : List Char) {back : List Char}
    (h : ∀ c ∈ back, isBlank c = true) : trim (cs ++ back) = trim cs := by
  rw [trim, trim, trimFront, List.dropWhile_append]
  split
  · rename_i hall
    have hcs : cs.dropWhile isBlank = [] := List.isEmpty_iff.1 hall
    have hback : back.dropWhile isBlank = [] := by
      rw [List.dropWhile_eq_nil_iff]
      exact h
    rw [trimFront, hcs, hback]
  · rw [trimBack, trimBack, List.reverse_append, List.dropWhile_append_of_pos]
    · rfl
    · exact fun c hc => h c (List.mem_reverse.1 hc)

theorem trim_blanks_append {front : List Char} (h : ∀ c ∈ front, isBlank c = true)
    (cs : List Char) : trim (front ++ cs) = trim cs := by
  rw [trim, trim, trimFront, List.dropWhile_append_of_pos h]
  rfl

/-! ### What is left -/

theorem exists_trim_append (cs : List Char) :
    ∃ back, trimFront cs = trim cs ++ back ∧ ∀ c ∈ back, isBlank c = true := by
  refine ⟨((trimFront cs).reverse.takeWhile isBlank).reverse, ?_, fun c hc => ?_⟩
  · rw [trim, trimBack, ← List.reverse_append, List.takeWhile_append_dropWhile,
      List.reverse_reverse]
  · exact List.mem_takeWhile_imp (List.mem_reverse.1 hc)

theorem not_isBlank_of_head?_dropWhile {cs : List Char} {c : Char}
    (h : (cs.dropWhile isBlank).head? = some c) : isBlank c = false := by
  have hnot := List.head?_dropWhile_not isBlank cs
  rwa [h] at hnot

/-- Trimming leaves what is left without the blanks. -/
theorem trimmed_trim (cs : List Char) : Trimmed cs (trim cs) := by
  obtain ⟨back, hback, hblank⟩ := exists_trim_append cs
  refine ⟨⟨cs.takeWhile isBlank, back, ?_, fun c => List.mem_takeWhile_imp, hblank⟩, ?_, ?_⟩
  · rw [List.append_assoc, ← hback]
    exact List.takeWhile_append_dropWhile.symm
  · intro c hc
    have hfront : (trimFront cs).head? = some c := by
      rw [hback, List.head?_append, hc]
      rfl
    exact not_isBlank_of_head?_dropWhile hfront
  · intro c hc
    rw [trim, trimBack, List.getLast?_reverse] at hc
    exact not_isBlank_of_head?_dropWhile hc

/-- **There is one text that is left without the blanks around it.** -/
theorem trim_eq_iff {cs core : List Char} : trim cs = core ↔ Trimmed cs core := by
  constructor
  · rintro rfl
    exact trimmed_trim cs
  · rintro ⟨⟨front, back, rfl, hfront, hback⟩, hhead, hlast⟩
    rw [trim_append_blanks _ hback, trim_blanks_append hfront, trim_eq_self hhead hlast]

theorem mem_of_mem_trim {cs : List Char} {c : Char} (h : c ∈ trim cs) : c ∈ cs := by
  obtain ⟨front, back, hparts, -⟩ := (trimmed_trim cs).around
  rw [hparts]
  simp [h]

/-- A text that begins with no blank begins so after trimming. -/
theorem head?_trim_cons {c : Char} {rest : List Char} (h : isBlank c = false) :
    (trim (c :: rest)).head? = some c := by
  rw [trim, trimFront, List.dropWhile_cons_of_neg (by simp [h]), trimBack, List.reverse_cons,
    List.dropWhile_append]
  split
  · simp [h]
  · simp

/-- A text without blanks is trimmed to itself. -/
theorem trim_of_forall_not_blank {cs : List Char} (h : ∀ c ∈ cs, isBlank c = false) :
    trim cs = cs :=
  trim_eq_self (fun c hc => h c (List.mem_of_head? hc)) fun c hc => h c (List.mem_of_getLast? hc)

theorem not_isBlank_of_isDigit {c : Char} (h : c.isDigit = true) : isBlank c = false := by
  have hrange : 48 ≤ c.toNat ∧ c.toNat ≤ 57 := by
    rw [Char.isDigit, Bool.and_eq_true, decide_eq_true_eq, decide_eq_true_eq] at h
    exact h
  rw [isBlank]
  simp
  omega

end RanSlicing.Text
