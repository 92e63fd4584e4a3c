/-
Names in a directory.

All records lie in one directory and differ in the name that is joined to it.  The steps of such
a path are those of the directory and then the name, whichever of its spellings the directory
has: with a slash at its end, without one, or as the empty text.
-/
import Mathlib.Data.List.Basic
import RanSlicing.FileTree.Path

namespace RanSlicing.Path

/-- A text that names an entry of a directory, and nothing but one. -/
structure IsName (name : String) : Prop where
  plain : '/' ∉ name.toList
  notEmpty : name ≠ ""
  notHere : name ≠ "."
  notUp : name ≠ ".."

/-- The steps to the directory that names are joined to. -/
def homeSteps (p : Path) : List String :=
  if p.text = "" then []
  else if p.text.toList.getLast? = some '/' then p.steps.dropLast
  else p.steps

theorem IsName.isAbsolute_eq {name : String} (h : IsName name) :
    (Path.mk name).isAbsolute = false := by
  rw [isAbsolute, beq_eq_false_iff_ne]
  intro hhead
  exact h.plain (List.mem_of_head? hhead)

theorem IsName.steps_eq {name : String} (h : IsName name) : (Path.mk name).steps = [name] := by
  rw [steps, List.splitOn_eq_singleton h.plain]
  simp

/-- The three spellings of a path in a directory. -/
theorem join_cases (p : Path) {name : String} (h : IsName name) :
    (p.text = "" ∧ p.join name = ⟨name⟩) ∨
      (∃ front, p.text.toList = front ++ ['/'] ∧
        (p.join name).text.toList = front ++ '/' :: name.toList) ∨
      (p.text ≠ "" ∧ p.text.toList.getLast? ≠ some '/' ∧
        (p.join name).text.toList = p.text.toList ++ '/' :: name.toList) := by
  unfold join
  rw [h.isAbsolute_eq]
  by_cases hempty : p.text = ""
  · exact .inl ⟨hempty, by simp [hempty]⟩
  · by_cases hlast : p.text.toList.getLast? = some '/'
    · obtain ⟨front, hfront⟩ := List.getLast?_eq_some_iff.1 hlast
      exact .inr (.inl ⟨front, hfront, by simp [hempty, hfront]⟩)
    · exact .inr (.inr ⟨hempty, hlast, by simp [hempty, hlast]⟩)

/-- **The steps of a path in a directory** are those of the directory and then the name. -/
theorem steps_join (p : Path) {name : String} (h : IsName name) :
    (p.join name).steps = p.homeSteps ++ [name] := by
  have hsingle : name.toList.splitOn '/' = [name.toList] := List.splitOn_eq_singleton h.plain
  rcases p.join_cases h with ⟨hempty, hjoin⟩ | ⟨front, hfront, hjoin⟩ | ⟨hempty, hlast, hjoin⟩
  · rw [hjoin, h.steps_eq, homeSteps, if_pos hempty]
    rfl
  · have hne : p.text ≠ "" := by
      intro hempty
      simp [hempty] at hfront
    have hlast : p.text.toList.getLast? = some '/' := by simp [hfront]
    rw [homeSteps, if_neg hne, if_pos hlast, steps, steps, hjoin, hfront,
      List.splitOn_append_cons_self, List.splitOn_append_cons_self, hsingle]
    simp
  · rw [homeSteps, if_neg hempty, if_neg hlast, steps, steps, hjoin,
      List.splitOn_append_cons_self, hsingle]
    simp

theorem properSteps_join (p : Path) {name : String} (h : IsName name) :
    (p.join name).properSteps
      = (p.homeSteps.filter fun step => step ≠ "" ∧ step ≠ ".") ++ [name] := by
  rw [properSteps, steps_join _ h, List.filter_append,
    List.filter_cons_of_pos (by simp [h.notEmpty, h.notHere]), List.filter_nil]

/-- Two names in a directory are two paths, however they are spelled. -/
theorem properSteps_join_ne (p : Path) {name other : String} (hname : IsName name)
    (hother : IsName other) (hne : name ≠ other) :
    (p.join name).properSteps ≠ (p.join other).properSteps := by
  rw [properSteps_join p hname, properSteps_join p hother]
  intro heq
  exact hne (by simpa using heq)

theorem text_join_ne (p : Path) {part : String} (h : part ≠ "") : (p.join part).text ≠ "" := by
  unfold join
  split
  · exact h
  · split <;> simp [h]

/-- A slash at the end is a further step, which is empty. -/
theorem steps_of_getLast? {p : Path} (h : p.text.toList.getLast? = some '/') :
    p.steps = p.steps.dropLast ++ [""] := by
  obtain ⟨front, hfront⟩ := List.getLast?_eq_some_iff.1 h
  rw [steps, hfront, List.splitOn_append_cons_self, List.splitOn_nil]
  simp

theorem isAbsolute_join (p : Path) {name : String} (h : IsName name) :
    (p.join name).isAbsolute = p.isAbsolute := by
  rcases p.join_cases h with ⟨hempty, hjoin⟩ | ⟨front, hfront, hjoin⟩ | ⟨hempty, -, hjoin⟩
  · rw [hjoin, h.isAbsolute_eq, isAbsolute, hempty]
    rfl
  · rw [isAbsolute, isAbsolute, hjoin, hfront]
    cases front <;> simp
  · have hne : p.text.toList ≠ [] := fun hnil => hempty (String.toList_inj.1 hnil)
    rw [isAbsolute, isAbsolute, hjoin, List.head?_append_of_ne_nil _ hne]

/-- A name that is joined to a path with a slash at its end is written right behind it. -/
theorem join_of_getLast? {p : Path} (hslash : p.text.toList.getLast? = some '/') {name : String}
    (h : IsName name) : p.join name = ⟨p.text ++ name⟩ := by
  have hne : p.text ≠ "" := by
    intro hempty
    simp [hempty] at hslash
  rw [join, h.isAbsolute_eq, if_neg (by simp [hne]), if_pos hslash]

/-- **A name behind further steps** is a name in the directory that they lead to. -/
theorem join_behind (p : Path) (front : String) {name : String} (h : IsName name) :
    p.join (front ++ "/" ++ name) = (p.join (front ++ "/")).join name := by
  have habsolute : (Path.mk (front ++ "/" ++ name)).isAbsolute
      = (Path.mk (front ++ "/")).isAbsolute := by
    rw [isAbsolute, isAbsolute]
    cases hfront : front.toList <;> simp [hfront]
  have hslash : (p.join (front ++ "/")).text.toList.getLast? = some '/' := by
    obtain ⟨before, hbefore⟩ : ∃ before, (p.join (front ++ "/")).text = before ++ "/" := by
      unfold join
      split
      · exact ⟨front, rfl⟩
      · split
        · exact ⟨p.text ++ front, String.append_assoc.symm⟩
        · exact ⟨p.text ++ "/" ++ front, String.append_assoc.symm⟩
    simp [hbefore]
  rw [join_of_getLast? hslash h]
  unfold join
  rw [habsolute]
  split
  · rfl
  · split <;> simp [String.append_assoc]

/-! ### The directory a path lies in

It is written from the steps of the path that lead somewhere, so its text is a part of the text of
the path: no longer, and without characters that the path does not have.
-/

theorem slash_not_mem_of_mem_splitOn {cs part : List Char} (h : part ∈ cs.splitOn '/') :
    '/' ∉ part := by
  induction cs generalizing part with
  | nil =>
      rw [List.splitOn_nil, List.mem_singleton] at h
      rw [h]
      exact List.not_mem_nil
  | cons c rest ih =>
      rw [List.splitOn_cons_eq_if_modifyHead] at h
      split at h
      · rcases List.mem_cons.1 h with rfl | h
        · exact List.not_mem_nil
        · exact ih h
      · rename_i hc
        cases hparts : rest.splitOn '/' with
        | nil => exact absurd hparts (List.splitOn_ne_nil _ _)
        | cons first others =>
            rw [hparts] at h ih
            rcases List.mem_cons.1 h with rfl | h
            · intro hmem
              rcases List.mem_cons.1 hmem with heq | hmem
              · exact hc (by simp [← heq])
              · exact ih List.mem_cons_self hmem
            · exact ih (List.mem_cons_of_mem _ h)

theorem intercalate_sublist {parts all : List (List Char)} (h : parts.Sublist all) :
    (List.intercalate ['/'] parts).Sublist (List.intercalate ['/'] all) := by
  induction h with
  | slnil => exact .refl _
  | @cons parts all part h ih =>
      by_cases hall : all = []
      · subst hall
        rw [List.sublist_nil.1 h]
        exact List.nil_sublist _
      · rw [List.intercalate_cons_of_ne_nil hall]
        exact ih.trans (List.sublist_append_right ..)
  | @cons_cons parts all part h ih =>
      by_cases hparts : parts = []
      · subst hparts
        rw [List.intercalate_singleton]
        by_cases hall : all = []
        · subst hall
          rw [List.intercalate_singleton]
        · rw [List.intercalate_cons_of_ne_nil hall, List.append_assoc]
          exact List.sublist_append_left ..
      · have hall : all ≠ [] := by
          rintro rfl
          exact hparts (List.sublist_nil.1 h)
        rw [List.intercalate_cons_of_ne_nil hparts, List.intercalate_cons_of_ne_nil hall]
        exact (List.Sublist.refl _).append ih

/-- The steps that lead to the directory, as characters. -/
def wayUp (p : Path) : List (List Char) := p.properSteps.dropLast.map String.toList

theorem wayUp_sublist (p : Path) : (p.wayUp).Sublist (p.text.toList.splitOn '/') := by
  have hsteps : p.steps.map String.toList = p.text.toList.splitOn '/' := by
    rw [steps, List.map_map]
    simp
  rw [← hsteps]
  exact ((List.dropLast_sublist _).trans List.filter_sublist).map _

theorem not_mem_of_mem_wayUp {p : Path} {part : List Char} (h : part ∈ p.wayUp) :
    '/' ∉ part ∧ part ≠ [] := by
  refine ⟨slash_not_mem_of_mem_splitOn (p.wayUp_sublist.subset h), ?_⟩
  obtain ⟨step, hstep, rfl⟩ := List.mem_map.1 h
  have hproper := (List.mem_filter.1 (List.dropLast_subset _ hstep)).2
  intro hnil
  rw [String.toList_inj.1 (hnil.trans String.toList_empty.symm)] at hproper
  exact absurd hproper (by decide)

theorem splitOn_slash_cons (rest : List Char) :
    ('/' :: rest).splitOn '/' = [] :: rest.splitOn '/' := by
  rw [List.splitOn_cons_eq_if_modifyHead, if_pos (beq_self_eq_true '/')]

theorem map_ofList_wayUp (p : Path) : p.wayUp.map String.ofList = p.properSteps.dropLast := by
  rw [wayUp, List.map_map]
  simp

theorem intercalate_wayUp_sublist (p : Path) :
    (List.intercalate ['/'] p.wayUp).Sublist p.text.toList := by
  have := intercalate_sublist p.wayUp_sublist
  rwa [List.intercalate_splitOn] at this

/-- The first step of an absolute path is the empty one before its slash, which leads nowhere. -/
theorem slash_cons_intercalate_wayUp_sublist {p : Path} (h : p.isAbsolute = true) :
    ('/' :: List.intercalate ['/'] p.wayUp).Sublist p.text.toList := by
  obtain ⟨rest, hrest⟩ : ∃ rest, p.text.toList = '/' :: rest := by
    rw [isAbsolute, beq_iff_eq] at h
    exact List.head?_eq_some_iff.1 h
  have hway := p.wayUp_sublist
  rw [hrest, splitOn_slash_cons, List.sublist_cons_iff] at hway
  rw [hrest]
  rcases hway with hway | ⟨others, hothers, -⟩
  · have := intercalate_sublist hway
    rw [List.intercalate_splitOn] at this
    exact this.cons_cons '/'
  · have hmem : [] ∈ p.wayUp := by
      rw [hothers]
      exact List.mem_cons_self
    exact absurd rfl (not_mem_of_mem_wayUp hmem).2

theorem intercalate_wayUp_ne_nil {p : Path} (h : p.wayUp ≠ []) :
    List.intercalate ['/'] p.wayUp ≠ [] := by
  intro hnil
  obtain ⟨part, hmem⟩ := List.exists_mem_of_ne_nil _ h
  have := intercalate_sublist (List.singleton_sublist.2 hmem)
  rw [List.intercalate_singleton, hnil, List.sublist_nil] at this
  exact (not_mem_of_mem_wayUp hmem).2 this

/-- What the parent of a path is written from. -/
theorem parent_cases (p : Path) :
    (p.isAbsolute = true ∧ p.parent.text.toList = '/' :: List.intercalate ['/'] p.wayUp) ∨
      (p.isAbsolute = false ∧ p.wayUp = [] ∧ p.parent = ⟨"."⟩) ∨
      (p.isAbsolute = false ∧ p.wayUp ≠ [] ∧
        p.parent.text.toList = List.intercalate ['/'] p.wayUp) := by
  have hparent : p.parent =
      if p.isAbsolute then ⟨"/" ++ String.ofList (List.intercalate ['/'] p.wayUp)⟩
      else if String.ofList (List.intercalate ['/'] p.wayUp) = "" then ⟨"."⟩
      else ⟨String.ofList (List.intercalate ['/'] p.wayUp)⟩ := rfl
  cases habsolute : p.isAbsolute with
  | true =>
      rw [habsolute, if_pos rfl] at hparent
      exact .inl ⟨rfl, by rw [hparent]; simp⟩
  | false =>
      rw [habsolute, if_neg Bool.false_ne_true] at hparent
      by_cases hempty : p.wayUp = []
      · rw [hempty, List.intercalate_nil, if_pos rfl] at hparent
        exact .inr (.inl ⟨rfl, hempty, hparent⟩)
      · have hne : String.ofList (List.intercalate ['/'] p.wayUp) ≠ "" := by
          intro hnil
          refine intercalate_wayUp_ne_nil hempty ?_
          rw [← String.ofList_inj, hnil]
        rw [if_neg hne] at hparent
        exact .inr (.inr ⟨rfl, hempty, by rw [hparent, String.toList_ofList]⟩)

/-- A way that leads somewhere begins with a letter. -/
theorem head?_intercalate_wayUp {p : Path} (h : p.wayUp ≠ []) :
    (List.intercalate ['/'] p.wayUp).head? ≠ some '/' := by
  obtain ⟨first, others, hfirst⟩ := List.exists_cons_of_ne_nil h
  have hmem : first ∈ p.wayUp := by
    rw [hfirst]
    exact List.mem_cons_self
  obtain ⟨hplain, hne⟩ := not_mem_of_mem_wayUp hmem
  obtain ⟨c, rest, hcons⟩ := List.exists_cons_of_ne_nil hne
  rw [hfirst, hcons, List.intercalate_cons_cons_left, List.head?_cons]
  intro heq
  refine hplain ?_
  rw [hcons, Option.some.inj heq]
  exact List.mem_cons_self

theorem isAbsolute_parent (p : Path) : p.parent.isAbsolute = p.isAbsolute := by
  rcases p.parent_cases with ⟨habsolute, htext⟩ | ⟨hrelative, -, hparent⟩ |
    ⟨hrelative, hsome, htext⟩
  · rw [habsolute, isAbsolute, htext]
    rfl
  · rw [hrelative, hparent]
    decide
  · rw [hrelative, isAbsolute, htext, beq_eq_false_iff_ne]
    exact head?_intercalate_wayUp hsome

/-- **The steps of the parent** are those of the path but the last one, after steps that stay
where they are: at the root, or where there is nowhere else to go. -/
theorem steps_parent (p : Path) :
    ∃ idle, p.parent.steps = idle ++ p.properSteps.dropLast ∧
      (∀ step ∈ idle, step = "" ∨ step = ".") ∧
      (idle = [] ∨ p.isAbsolute = true ∨ p.properSteps.dropLast = []) := by
  have hway : p.wayUp ≠ [] → (List.intercalate ['/'] p.wayUp).splitOn '/' = p.wayUp :=
    List.splitOn_intercalate '/' fun part hpart => (not_mem_of_mem_wayUp hpart).1
  rw [← map_ofList_wayUp]
  rcases p.parent_cases with ⟨habsolute, htext⟩ | ⟨hrelative, hnone, hparent⟩ |
    ⟨hrelative, hsome, htext⟩
  · rw [steps, htext, splitOn_slash_cons, List.map_cons]
    by_cases hnone : p.wayUp = []
    · rw [hnone]
      exact ⟨["", ""], rfl, by simp, .inr (.inl habsolute)⟩
    · rw [hway hnone]
      exact ⟨[""], rfl, by simp, .inr (.inl habsolute)⟩
  · rw [hparent, hnone]
    exact ⟨["."], by decide, by simp, .inr (.inr rfl)⟩
  · rw [steps, htext, hway hsome]
    exact ⟨[], rfl, by simp, .inl rfl⟩

/-- The parent is a part of the path, or a dot. -/
theorem parent_sublist (p : Path) :
    p.parent.text ≠ "" ∧ (p.parent = ⟨"."⟩ ∨ p.parent.text.toList.Sublist p.text.toList) := by
  rcases p.parent_cases with ⟨habsolute, htext⟩ | ⟨-, -, hparent⟩ | ⟨-, hsome, htext⟩
  · refine ⟨fun hempty => ?_, .inr ?_⟩
    · rw [hempty] at htext
      simp at htext
    · rw [htext]
      exact slash_cons_intercalate_wayUp_sublist habsolute
  · rw [hparent]
    exact ⟨by decide, .inl rfl⟩
  · refine ⟨fun hempty => ?_, .inr ?_⟩
    · rw [hempty] at htext
      exact intercalate_wayUp_ne_nil hsome htext.symm
    · rw [htext]
      exact p.intercalate_wayUp_sublist

end RanSlicing.Path
