/-
A directory takes every record.

Putting a text in place needs the directory of the path, which the program names anew from the
steps of the path.  The name it writes leads where the directory's own name leads, so in a
directory that exists nothing is in the way of a record that is missing (`seat_of_notFound`), and
records that are put there are in nobody's way either (`Seat.put`).
-/
import RanSlicing.Proofs.FileTree.Basic

namespace RanSlicing.FileTree

variable {t : FileTree} {directory : Path} {home : Location} {name : String}

/-- A text can be put at a name in the directory at `home`. -/
structure Seat (t : FileTree) (directory : Path) (home : Location) (name : String) : Prop where
  isHome : t.node? home = some .directory
  parent : t.locate (directory.join name).parent = .ok home
  locate : t.locate (directory.join name) = .ok (home ++ [.text name])
  free : t.node? (home ++ [.text name]) ≠ some .directory

/-- **A text is put at a seat.** -/
theorem Seat.replaceText (h : Seat t directory home name) (hname : Path.IsName name)
    (content : String) :
    t.replaceText (directory.join name) content
      = .ok (t.put (home ++ [.text name]) (.file (.text content) 0o644)) := by
  have hparent : t.locateDirectory (directory.join name).parent = .ok home := by
    rw [locateDirectory, h.parent]
    simp only [bind, Except.bind, h.isHome]
  have hlast : (directory.join name).steps.getLast? = some name := by
    rw [Path.steps_join _ hname]
    simp
  unfold FileTree.replaceText
  simp only [hparent, h.locate, hlast, bind, Except.bind]
  split
  · rename_i heq
    exact absurd heq (by simp)
  · rename_i heq
    exact absurd (Option.some.inj heq) hname.notHere
  · rename_i heq
    exact absurd (Option.some.inj heq) hname.notUp
  · rename_i heq
    exact absurd (Option.some.inj heq) hname.notEmpty
  · rename_i found _ _ _ heq
    obtain rfl := Option.some.inj heq
    rw [if_neg (fun hne => hne rfl)]
    split
    · rename_i hnode
      exact absurd hnode h.free
    · rfl

/-- Where a text was put there is a seat. -/
theorem seat_of_replaceText {t' : FileTree} {content : String} (hname : Path.IsName name)
    (h : t.replaceText (directory.join name) content = .ok t') :
    ∃ home, Seat t directory home name ∧
      t' = t.put (home ++ [.text name]) (.file (.text content) 0o644) := by
  have hlast : (directory.join name).steps.getLast? = some name := by
    rw [Path.steps_join _ hname]
    simp
  unfold FileTree.replaceText at h
  obtain ⟨home, hhome, hrest⟩ := bind_eq_ok_iff.1 h
  obtain ⟨place, hplace, hput⟩ := bind_eq_ok_iff.1 hrest
  obtain ⟨way, hway, hdirectory⟩ := bind_eq_ok_iff.1 hhome
  have hparent : t.node? home = some .directory ∧ way = home := by
    split at hdirectory
    · simp at hdirectory
    · simp at hdirectory
    · rename_i hnode
      obtain rfl := Except.ok.inj hdirectory
      exact ⟨hnode, rfl⟩
  obtain ⟨hisHome, rfl⟩ := hparent
  split at hput
  · simp at hput
  · simp at hput
  · simp at hput
  · simp at hput
  · rename_i found _ _ _ hfound
    have hfound' : found = name := Option.some.inj (hfound.symm.trans hlast)
    split at hput
    · simp at hput
    · rename_i hwhere
      have hwhere' : place = way ++ [.text name] := by
        rw [← hfound']
        exact (not_not.1 hwhere).symm
      split at hput
      · simp at hput
      · rename_i hfree
        rw [hwhere'] at hplace hfree hput
        exact ⟨way, ⟨hisHome, hway, hplace, hfree⟩, (Except.ok.inj hput).symm⟩

/-- A file that is put somewhere leaves a seat a seat. -/
theorem Seat.put (h : Seat t directory home name) {place : Location}
    (hplace : t.node? place ≠ some .directory) (content : FileContent) (mode : Nat) :
    Seat (t.put place (.file content mode)) directory home name := by
  have hhome : home ≠ place := fun heq => hplace (heq ▸ h.isHome)
  refine ⟨?_, locate_put hplace _ h.parent, locate_put hplace _ h.locate, ?_⟩
  · rw [node?_put_ne hhome]
    exact h.isHome
  · by_cases heq : home ++ [.text name] = place
    · rw [heq, node?_put_self hplace]
      simp
    · rw [node?_put_ne heq]
      exact h.free

/-- In a tree of directories nothing is a file. -/
theorem isFile_eq_false_of_directories (h : ∀ e ∈ t.entries, e.2 = .directory) (p : Path) :
    t.isFile p = false := by
  have hnode : ∀ place content mode, t.node? place ≠ some (.file content mode) := by
    intro place content mode hfile
    unfold node? at hfile
    split at hfile
    · simp at hfile
    · have := h _ (SortedMap.mem_of_lookup hfile)
      simp at this
  unfold isFile
  split
  · rfl
  · split
    · rename_i hfile
      exact absurd hfile (hnode _ _ _)
    · rfl

/-! ### The way to a directory that exists -/

/-- Empty steps and dots may be left out of a way. -/
theorem follow_properSteps :
    ∀ (steps : List String) (here there : Location), t.follow here steps = .ok there →
      t.follow here (steps.filter fun step => step ≠ "" ∧ step ≠ ".") = .ok there := by
  intro steps
  induction steps with
  | nil => intro here there h; exact h
  | cons step rest ih =>
      intro here there h
      obtain ⟨hhere, hsize, hrest⟩ := follow_cons_eq_ok_iff.1 h
      by_cases hidle : step = "" ∨ step = "."
      · rw [List.filter_cons_of_neg (by simpa [or_iff_not_imp_left] using hidle)]
        rw [goTo, if_pos hidle] at hrest
        exact ih here there hrest
      · rw [List.filter_cons_of_pos (by simpa using hidle)]
        exact follow_cons_eq_ok_iff.2 ⟨hhere, hsize, ih _ there hrest⟩

/-- Such steps stay in the directory they are taken in. -/
theorem follow_idle {here : Location} (hhere : t.node? here = some .directory) :
    ∀ idle : List String, (∀ step ∈ idle, step = "" ∨ step = ".") →
      t.follow here idle = .ok here := by
  intro idle
  induction idle with
  | nil => intro _; rfl
  | cons step rest ih =>
      intro h
      simp only [follow, hhere]
      rw [if_pos (h step List.mem_cons_self)]
      exact ih fun other hother => h other (List.mem_cons_of_mem _ hother)

/-- What a path needs so that the operating system looks at its steps. -/
structure Addressable (p : Path) : Prop where
  notEmpty : p.text ≠ ""
  noNul : '\x00' ∉ p.text.toList
  short : p.text.utf8ByteSize < 4096

theorem locate_of_addressable {p : Path} (h : Addressable p) :
    t.locate p = t.follow (t.start p) p.steps := by
  rw [FileTree.locate, if_neg h.notEmpty, if_neg (by simpa using h.noNul),
    if_neg (Nat.not_le.2 h.short)]

/-- A path that leads somewhere, or to nothing, is addressable. -/
theorem addressable_of_readText_notFound {p : Path} (hne : p.text ≠ "")
    (h : t.readText p = .error .notFound) : Addressable p := by
  simp only [readText, readContent, FileTree.locate, if_neg hne] at h
  split at h
  · simp [bind, Except.bind] at h
  · rename_i hnul
    split at h
    · simp [bind, Except.bind] at h
    · rename_i hshort
      exact ⟨hne, by simpa using hnul, Nat.lt_of_not_le hshort⟩

theorem utf8ByteSize_ofList_cons (c : Char) (cs : List Char) :
    (String.ofList (c :: cs)).utf8ByteSize
      = (String.singleton c).utf8ByteSize + (String.ofList cs).utf8ByteSize := by
  rw [← List.singleton_append, String.ofList_append, String.utf8ByteSize_append]
  rfl

theorem utf8ByteSize_le_of_sublist {cs ds : List Char} (h : cs.Sublist ds) :
    (String.ofList cs).utf8ByteSize ≤ (String.ofList ds).utf8ByteSize := by
  induction h with
  | slnil => exact Nat.le_refl _
  | cons c h ih =>
      rw [utf8ByteSize_ofList_cons]
      omega
  | cons_cons c h ih =>
      rw [utf8ByteSize_ofList_cons, utf8ByteSize_ofList_cons]
      omega

theorem addressable_parent {p : Path} (h : Addressable p) : Addressable p.parent := by
  obtain ⟨hne, hdot | hpart⟩ := p.parent_sublist
  · rw [hdot]
    exact ⟨by decide, by decide, by decide⟩
  · refine ⟨hne, fun hmem => h.noNul (hpart.subset hmem), ?_⟩
    have := utf8ByteSize_le_of_sublist hpart
    rw [String.ofList_toList, String.ofList_toList] at this
    exact Nat.lt_of_le_of_lt this h.short

/-- **The parent of a path leads where its steps lead**, all but the last. -/
theorem locate_parent {p : Path} (h : Addressable p)
    (hway : t.follow (t.start p) p.properSteps.dropLast = .ok home)
    (hhome : t.node? home = some .directory) : t.locate p.parent = .ok home := by
  obtain ⟨idle, hsteps, hidle, hwhere⟩ := p.steps_parent
  have hstart : t.start p.parent = t.start p := by
    rw [start, start, Path.isAbsolute_parent]
  have hstay : t.follow (t.start p) idle = .ok (t.start p) := by
    rcases hwhere with rfl | habsolute | hnowhere
    · rfl
    · refine follow_idle ?_ idle hidle
      rw [start, if_pos habsolute]
      exact node?_root t
    · refine follow_idle ?_ idle hidle
      rw [hnowhere] at hway
      rw [Except.ok.inj hway]
      exact hhome
  rw [locate_of_addressable (addressable_parent h), hstart, hsteps, follow_append, hstay]
  exact hway

/-- The steps to the directory of names lead where its own name leads. -/
theorem follow_homeSteps (h : t.locateDirectory directory = .ok home) :
    t.follow (t.start directory) directory.homeSteps = .ok home ∧
      t.node? home = some .directory := by
  obtain ⟨place, hplace, hnode⟩ := bind_eq_ok_iff.1 h
  split at hnode
  · simp at hnode
  · simp at hnode
  · rename_i hdirectory
    obtain rfl := Except.ok.inj hnode
    refine ⟨?_, hdirectory⟩
    have hfollow := follow_of_locate hplace
    have hne : directory.text ≠ "" := by
      intro hempty
      rw [FileTree.locate, if_pos hempty] at hplace
      simp at hplace
    rw [Path.homeSteps, if_neg hne]
    split
    · -- The empty step after a slash at the end leads nowhere else.
      rename_i hslash
      rw [Path.steps_of_getLast? hslash, follow_append] at hfollow
      obtain ⟨here, hhere, hlast⟩ := bind_eq_ok_iff.1 hfollow
      obtain ⟨-, -, hstay⟩ := follow_cons_eq_ok_iff.1 hlast
      rw [goTo, if_pos (.inl rfl)] at hstay
      rwa [← Except.ok.inj hstay]
    · exact hfollow

/-- **A name that is joined to a directory leads to its place there**, unless the system takes no
such path or no such name. -/
theorem locate_join (hname : Path.IsName name)
    (hhome : t.locateDirectory directory = .ok home) : t.locate (directory.join name) =
      if (directory.join name).text.toList.contains '\x00' then .error .nulInName
      else if 4096 ≤ (directory.join name).text.utf8ByteSize then .error .nameTooLong
      else if 255 < name.utf8ByteSize then .error .nameTooLong
      else .ok (home ++ [.text name]) := by
  obtain ⟨hfollow, hdirectory⟩ := follow_homeSteps hhome
  have hstart : t.start (directory.join name) = t.start directory := by
    rw [start, start, Path.isAbsolute_join _ hname]
  have hway : t.follow (t.start (directory.join name)) (directory.join name).steps
      = if 255 < name.utf8ByteSize then .error .nameTooLong else .ok (home ++ [.text name]) := by
    rw [hstart, Path.steps_join _ hname, follow_append, hfollow]
    show t.follow home [name] = _
    rw [follow_name hname, hdirectory]
  rw [locate, if_neg (Path.text_join_ne _ hname.notEmpty), hway]

/-- **In a directory that exists, a record that is missing can be put in place.** -/
theorem seat_of_notFound (hname : Path.IsName name)
    (hhome : t.locateDirectory directory = .ok home)
    (h : t.readText (directory.join name) = .error .notFound) : Seat t directory home name := by
  obtain ⟨hfollow, hdirectory⟩ := follow_homeSteps hhome
  have haddressable :=
    addressable_of_readText_notFound (Path.text_join_ne directory hname.notEmpty) h
  have hlocate := locate_join hname hhome
  rw [if_neg (by simpa using haddressable.noNul), if_neg (Nat.not_le.2 haddressable.short)]
    at hlocate
  split at hlocate
  · simp [readText, readContent, hlocate, bind, Except.bind] at h
  · refine ⟨hdirectory, locate_parent haddressable ?_ hdirectory, hlocate, fun hnode => ?_⟩
    · have hstart : t.start (directory.join name) = t.start directory := by
        rw [start, start, Path.isAbsolute_join _ hname]
      have hproper : (directory.join name).properSteps.dropLast
          = directory.homeSteps.filter fun step => step ≠ "" ∧ step ≠ "." := by
        rw [Path.properSteps_join _ hname, List.dropLast_concat]
      rw [hproper, hstart]
      exact follow_properSteps _ _ _ hfollow
    · simp [readText, readContent, hlocate, hnode, bind, Except.bind] at h

end RanSlicing.FileTree
