/-
Putting a file leaves every other file where it was.

A path leads through directories only, so what lies at a place that is no directory has no part
in where any path leads.  Putting a file at such a place therefore changes what is at that place
and nothing else: the path it was put at still leads there (`readText_replaceText`), and any other
path leads where it led unless it comes by that place (`locate_of_not_meets`).  One that leads to
another name in the same directory does not (`not_meets_sibling`).
-/
import RanSlicing.FileTree.Basic
import RanSlicing.Proofs.Except
import RanSlicing.Proofs.FileTree.Path
import RanSlicing.Proofs.SortedMap

namespace RanSlicing.FileTree

variable {t t' : FileTree}

@[simp] theorem node?_root (t : FileTree) : t.node? [] = some .directory := rfl

/-- What is put where no directory is lies there; the root is one. -/
theorem node?_put_self {place : Location} (h : t.node? place ≠ some .directory) (n : FileNode) :
    (t.put place n).node? place = some n := by
  have hroot : place ≠ [] := fun hroot => h (hroot ▸ node?_root t)
  rw [node?, if_neg hroot, put]
  exact List.lookup_cons_self

theorem node?_put_ne {place other : Location} (h : other ≠ place) (n : FileNode) :
    (t.put place n).node? other = t.node? other := by
  by_cases hroot : other = []
  · subst hroot
    rfl
  · rw [node?, node?, if_neg hroot, if_neg hroot, put, SortedMap.lookup_cons_ne h,
      SortedMap.lookup_filter (· ≠ place), if_pos (by simpa using h)]

@[simp] theorem start_put (t : FileTree) (place : Location) (n : FileNode) (p : Path) :
    (t.put place n).start p = t.start p := rfl

/-! ### Following steps -/

theorem follow_append (t : FileTree) :
    ∀ (front back : List String) (here : Location),
      t.follow here (front ++ back) = t.follow here front >>= fun p => t.follow p back := by
  intro front back
  induction front with
  | nil => intro here; rfl
  | cons step rest ih =>
      intro here
      simp only [List.cons_append, follow]
      split
      · rfl
      · rfl
      · split
        · exact ih here
        · split
          · exact ih _
          · split
            · rfl
            · exact ih _

/-- Where a step leads to that is taken in a directory. -/
def goTo (here : Location) (step : String) : Location :=
  if step = "" ∨ step = "." then here
  else if step = ".." then here.dropLast
  else here ++ [.text step]

/-- A step that is taken in a directory. -/
theorem follow_cons {here : Location} (hhere : t.node? here = some .directory) (step : String)
    (rest : List String) : t.follow here (step :: rest) =
      if 255 < step.utf8ByteSize then .error .nameTooLong else t.follow (goTo here step) rest := by
  rw [follow, hhere, goTo]
  by_cases hidle : step = "" ∨ step = "."
  · have hsize : ¬255 < step.utf8ByteSize := by
      rcases hidle with rfl | rfl <;> decide
    simp only [if_pos hidle, if_neg hsize]
  · by_cases hup : step = ".."
    · have hsize : ¬255 < step.utf8ByteSize := by
        rw [hup]
        decide
      simp only [if_neg hidle, if_pos hup, if_neg hsize]
    · simp only [if_neg hidle, if_neg hup]

/-- A step is taken in a directory, and has no more letters than a name may have. -/
theorem follow_cons_eq_ok_iff {step : String} {rest : List String} {here there : Location} :
    t.follow here (step :: rest) = .ok there ↔
      t.node? here = some .directory ∧ step.utf8ByteSize ≤ 255 ∧
        t.follow (goTo here step) rest = .ok there := by
  cases hhere : t.node? here with
  | none => simp [follow, hhere]
  | some node =>
      cases node with
      | file _ _ => simp [follow, hhere]
      | directory =>
          rw [follow_cons hhere]
          split
          · rename_i hlong
            exact iff_of_false (by simp) fun h => absurd hlong (Nat.not_lt.2 h.2.1)
          · rename_i hshort
            simp [Nat.not_lt.1 hshort]

/-- A way through directories is the same whatever is put where no directory was. -/
theorem follow_put {place : Location} (hplace : t.node? place ≠ some .directory) (n : FileNode) :
    ∀ (steps : List String) (here there : Location), t.follow here steps = .ok there →
      (t.put place n).follow here steps = .ok there := by
  intro steps
  induction steps with
  | nil => intro here there h; exact h
  | cons step rest ih =>
      intro here there h
      obtain ⟨hhere, hsize, hrest⟩ := follow_cons_eq_ok_iff.1 h
      have hne : here ≠ place := fun heq => hplace (heq ▸ hhere)
      refine follow_cons_eq_ok_iff.2 ⟨?_, hsize, ih _ _ hrest⟩
      rw [node?_put_ne hne]
      exact hhere

theorem follow_name {name : String} (h : Path.IsName name) (here : Location) :
    t.follow here [name] =
      match t.node? here with
      | none => .error .notFound
      | some (.file ..) => .error .notDirectory
      | some .directory =>
        if 255 < name.utf8ByteSize then .error .nameTooLong else .ok (here ++ [.text name]) := by
  rw [follow]
  cases t.node? here with
  | none => rfl
  | some node =>
      cases node with
      | file _ _ => rfl
      | directory =>
          simp only
          rw [if_neg (by simp [h.notEmpty, h.notHere]), if_neg h.notUp]
          rfl

/-- A name is found in a directory. -/
theorem follow_name_eq_ok {name : String} (h : Path.IsName name) {here there : Location}
    (hfollow : t.follow here [name] = .ok there) :
    t.node? here = some .directory ∧ there = here ++ [.text name] := by
  obtain ⟨hhere, -, hthere⟩ := follow_cons_eq_ok_iff.1 hfollow
  refine ⟨hhere, ?_⟩
  rw [goTo, if_neg (by simp [h.notEmpty, h.notHere]), if_neg h.notUp] at hthere
  exact (Except.ok.inj hthere).symm

theorem follow_of_locate {p : Path} {place : Location} (h : t.locate p = .ok place) :
    t.follow (t.start p) p.steps = .ok place := by
  unfold locate at h
  split at h
  · simp at h
  · split at h
    · simp at h
    · split at h
      · simp at h
      · exact h

theorem locate_congr {p : Path}
    (h : t'.follow (t'.start p) p.steps = t.follow (t.start p) p.steps) :
    t'.locate p = t.locate p := by
  unfold locate
  rw [h]

theorem locate_put {place : Location} (hplace : t.node? place ≠ some .directory) (n : FileNode)
    {p : Path} {there : Location} (h : t.locate p = .ok there) :
    (t.put place n).locate p = .ok there := by
  have hfollow := follow_of_locate h
  rw [locate_congr (t := t), h]
  rw [start_put, hfollow]
  exact follow_put hplace n _ _ _ hfollow

/-- What was read lies in a file. -/
theorem isFile_of_readText {p : Path} {content : String} (h : t.readText p = .ok content) :
    t.isFile p = true := by
  obtain ⟨found, hfound, -⟩ := bind_eq_ok_iff.1 h
  obtain ⟨place, hplace, hnode⟩ := bind_eq_ok_iff.1 hfound
  rw [isFile, hplace]
  split at hnode
  · simp at hnode
  · simp at hnode
  · rename_i hfile
    simp only [hfile]

/-! ### Replacing a text -/

theorem replaceText_eq_ok {p : Path} {content : String}
    (h : t.replaceText p content = .ok t') :
    ∃ place, t.locate p = .ok place ∧ t.node? place ≠ some .directory ∧
      t' = t.put place (.file (.text content) 0o644) := by
  unfold replaceText at h
  obtain ⟨home, -, h⟩ := bind_eq_ok_iff.1 h
  obtain ⟨place, hplace, h⟩ := bind_eq_ok_iff.1 h
  refine ⟨place, hplace, ?_⟩
  split at h
  · simp at h
  · simp at h
  · simp at h
  · simp at h
  · split at h
    · simp at h
    · split at h
      · simp at h
      · rename_i hnode
        exact ⟨hnode, (Except.ok.inj h).symm⟩

variable {p : Path} {content : String}

theorem eq_put_of_replaceText (h : t.replaceText p content = .ok t') {place : Location}
    (hlocate : t.locate p = .ok place) :
    t.node? place ≠ some .directory ∧ t' = t.put place (.file (.text content) 0o644) := by
  obtain ⟨found, hfound, hplace, hput⟩ := replaceText_eq_ok h
  obtain rfl : found = place := Except.ok.inj (hfound.symm.trans hlocate)
  exact ⟨hplace, hput⟩

/-- **A text that was put in place is read there.** -/
theorem readText_replaceText (h : t.replaceText p content = .ok t') :
    t'.readText p = .ok content := by
  obtain ⟨place, hlocate, hplace, rfl⟩ := replaceText_eq_ok h
  simp only [readText, readContent, locate_put hplace _ hlocate, node?_put_self hplace, bind,
    Except.bind]

theorem isFile_replaceText (h : t.replaceText p content = .ok t') : t'.isFile p = true := by
  obtain ⟨place, hlocate, hplace, rfl⟩ := replaceText_eq_ok h
  simp only [isFile, locate_put hplace _ hlocate, node?_put_self hplace]

/-! ### Where a path meets a file

A path meets what is put at another one if it leads there.  It also does if it leads on from there
and there was nothing: the file is in its way then, where a step was missing before.
-/

/-- The path `q` leads to where `p` leads, or on from there although nothing is there. -/
def Meets (t : FileTree) (q p : Path) : Prop :=
  ∃ place front back, t.locate p = .ok place ∧ q.steps = front ++ back ∧
    t.follow (t.start q) front = .ok place ∧ (back = [] ∨ t.node? place = none)

/-- Steps that do not come by lead where they led, or have the obstacle that they had. -/
theorem follow_put_of_not_by {place : Location} (hplace : t.node? place ≠ some .directory)
    (content : FileContent) (mode : Nat) :
    ∀ (steps : List String) (here : Location),
      (∀ front back, steps = front ++ back → t.follow here front = .ok place →
        ¬(back = [] ∨ t.node? place = none)) →
      (t.put place (.file content mode)).follow here steps = t.follow here steps := by
  intro steps
  induction steps with
  | nil => intro here _; rfl
  | cons step rest ih =>
      intro here h
      by_cases heq : here = place
      · -- What the steps come by is a file already, and is as much in their way as the new one.
        subst heq
        have hsome := h [] (step :: rest) rfl rfl
        rw [follow, follow, node?_put_self hplace]
        cases hnode : t.node? here with
        | none => exact absurd (.inr hnode) hsome
        | some node =>
            cases node with
            | directory => exact absurd hnode hplace
            | file _ _ => rfl
      · have hsame := node?_put_ne (t := t) heq (.file content mode)
        cases hhere : t.node? here with
        | none => rw [follow, follow, hsame, hhere]
        | some node =>
            cases node with
            | file _ _ => rw [follow, follow, hsame, hhere]
            | directory =>
                rw [follow_cons (hsame.trans hhere), follow_cons hhere]
                split
                · rfl
                · rename_i hshort
                  refine ih _ fun front back hrest hfront => ?_
                  refine h (step :: front) back (congrArg (step :: ·) hrest) ?_
                  exact follow_cons_eq_ok_iff.2 ⟨hhere, Nat.not_lt.1 hshort, hfront⟩

/-- **A path that does not meet what is put leads where it led**, to what was there. -/
theorem locate_of_not_meets {q : Path} (h : t.replaceText p content = .ok t')
    (hq : ¬t.Meets q p) :
    t'.locate q = t.locate q ∧ ∀ there, t.locate q = .ok there → t'.node? there = t.node? there := by
  obtain ⟨place, hlocate, hplace, rfl⟩ := replaceText_eq_ok h
  refine ⟨locate_congr ?_, fun there hthere => node?_put_ne (fun heq => hq ?_) _⟩
  · rw [start_put]
    refine follow_put_of_not_by hplace _ _ _ _ fun front back hsteps hfront hmet => ?_
    exact hq ⟨place, front, back, hlocate, hsteps, hfront, hmet⟩
  · subst heq
    exact ⟨there, q.steps, [], hlocate, (List.append_nil _).symm, follow_of_locate hthere, .inl rfl⟩

theorem readText_of_not_meets {q : Path} (h : t.replaceText p content = .ok t')
    (hq : ¬t.Meets q p) : t'.readText q = t.readText q := by
  obtain ⟨hlocate, hnode⟩ := locate_of_not_meets h hq
  simp only [readText, readContent, hlocate]
  cases hplace : t.locate q with
  | error e => rfl
  | ok place =>
      simp only [bind, Except.bind]
      rw [hnode place hplace]

theorem isFile_of_not_meets {q : Path} (h : t.replaceText p content = .ok t')
    (hq : ¬t.Meets q p) : t'.isFile q = t.isFile q := by
  obtain ⟨hlocate, hnode⟩ := locate_of_not_meets h hq
  simp only [isFile, hlocate]
  cases hplace : t.locate q with
  | error e => rfl
  | ok place =>
      simp only
      rw [hnode place hplace]

/-- **A path that meets what is put** reads it, or finds it in its way. -/
theorem readText_of_meets {q : Path} (h : t.replaceText p content = .ok t') (hq : t.Meets q p)
    (hne : q.text ≠ "") :
    t'.readText q = .ok content ∨ ∃ e, e ≠ .notFound ∧ t'.readText q = .error e := by
  obtain ⟨place, front, back, hlocate, hsteps, hfront, -⟩ := hq
  obtain ⟨hplace, rfl⟩ := eq_put_of_replaceText h hlocate
  have hfile := node?_put_self hplace (.file (.text content) 0o644)
  simp only [readText, readContent, locate, if_neg hne]
  split
  · exact .inr ⟨_, by simp, rfl⟩
  · split
    · exact .inr ⟨_, by simp, rfl⟩
    · rw [start_put, hsteps, follow_append, follow_put hplace _ _ _ _ hfront]
      cases back with
      | nil =>
          refine .inl ?_
          simp only [follow, bind, Except.bind, hfile]
      | cons step rest =>
          refine .inr ⟨.notDirectory, by simp, ?_⟩
          simp only [follow, bind, Except.bind, hfile]

/-! ### The other names of the directory -/

/-- **Another name in the directory does not meet** what is put at a name. -/
theorem not_meets_sibling {directory : Path} {name other : String} (hname : Path.IsName name)
    (hother : Path.IsName other) (hne : other ≠ name)
    (h : t.replaceText (directory.join name) content = .ok t') :
    ¬t.Meets (directory.join other) (directory.join name) := by
  rintro ⟨place, front, back, hlocate, hsteps, hfront, -⟩
  obtain ⟨hplace, -⟩ := eq_put_of_replaceText h hlocate
  have hstart : t.start (directory.join other) = t.start (directory.join name) := by
    rw [start, start, Path.isAbsolute_join _ hother, Path.isAbsolute_join _ hname]
  have hfollow := follow_of_locate hlocate
  rw [Path.steps_join _ hname, follow_append] at hfollow
  obtain ⟨home, hhome, hstep⟩ := bind_eq_ok_iff.1 hfollow
  obtain ⟨hdirectory, rfl⟩ := follow_name_eq_ok hname hstep
  rw [hstart] at hfront
  rw [Path.steps_join _ hother] at hsteps
  rcases List.eq_nil_or_concat back with rfl | ⟨between, last, rfl⟩
  · rw [List.append_nil] at hsteps
    rw [← hsteps, follow_append, hhome] at hfront
    obtain ⟨-, hsame⟩ := follow_name_eq_ok hother hfront
    exact hne (by simpa using hsame.symm)
  · -- The way to the directory would lead through what is no directory.
    rw [List.concat_eq_append, ← List.append_assoc] at hsteps
    obtain ⟨hway, -⟩ := List.append_inj' hsteps rfl
    rw [hway, follow_append, hfront] at hhome
    cases between with
    | nil => exact absurd (Except.ok.inj hhome) (by simp)
    | cons step rest => exact hplace (follow_cons_eq_ok_iff.1 hhome).1

theorem readText_sibling {directory : Path} {name other : String} (hname : Path.IsName name)
    (hother : Path.IsName other) (hne : other ≠ name)
    (h : t.replaceText (directory.join name) content = .ok t') :
    t'.readText (directory.join other) = t.readText (directory.join other) :=
  readText_of_not_meets h (not_meets_sibling hname hother hne h)

theorem isFile_sibling {directory : Path} {name other : String} (hname : Path.IsName name)
    (hother : Path.IsName other) (hne : other ≠ name)
    (h : t.replaceText (directory.join name) content = .ok t') :
    t'.isFile (directory.join other) = t.isFile (directory.join other) :=
  isFile_of_not_meets h (not_meets_sibling hname hother hne h)

end RanSlicing.FileTree
