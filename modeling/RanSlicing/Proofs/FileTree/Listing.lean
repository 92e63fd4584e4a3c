/-
The names in a directory, and what lies behind them.

In a tree as a file system holds one, each place has one entry and no name has a slash in it
(`Proper`); putting a text in place keeps it so.  A directory of such a tree lists each of its
names once (`Proper.nodup_list`), those are the names with something behind them (`mem_list_iff`),
and a name that is joined to the directory leads to its own place there or nowhere
(`locate_join`).  What is read behind a name is therefore settled by that place alone, whatever
else the tree holds and in whichever order it lists it (`readText_join_congr`).
-/
import RanSlicing.Proofs.FileTree.Seat

namespace RanSlicing

/-- A name that a directory can have: a text without a slash, or bytes that are no text. -/
def FileName.IsProper : FileName → Prop
  | .text name => Path.IsName name
  | .bytes _ => True

theorem Path.isName_iff {name : String} :
    Path.IsName name ↔ '/' ∉ name.toList ∧ name ≠ "" ∧ name ≠ "." ∧ name ≠ ".." :=
  ⟨fun h => ⟨h.plain, h.notEmpty, h.notHere, h.notUp⟩, fun ⟨h₁, h₂, h₃, h₄⟩ => ⟨h₁, h₂, h₃, h₄⟩⟩

instance (name : String) : Decidable (Path.IsName name) := decidable_of_iff' _ Path.isName_iff

instance : (name : FileName) → Decidable name.IsProper
  | .text name => inferInstanceAs (Decidable (Path.IsName name))
  | .bytes _ => inferInstanceAs (Decidable True)

namespace FileTree

variable {t t' : FileTree} {p directory : Path} {home home' : Location} {names : List FileName}

/-- A tree as a file system holds one. -/
structure Proper (t : FileTree) : Prop where
  /-- Each place has one entry. -/
  distinct : (t.entries.map (·.1)).Nodup
  /-- Names are such as a directory can have. -/
  named : ∀ e ∈ t.entries, ∀ name ∈ e.1, name.IsProper

theorem proper_iff : t.Proper ↔
    (t.entries.map (·.1)).Nodup ∧ ∀ e ∈ t.entries, ∀ name ∈ e.1, name.IsProper :=
  ⟨fun h => ⟨h.distinct, h.named⟩, fun ⟨h₁, h₂⟩ => ⟨h₁, h₂⟩⟩

instance (t : FileTree) : Decidable t.Proper := decidable_of_iff' _ proper_iff

/-! ### Putting a text in place keeps a tree proper -/

theorem Proper.put (ht : t.Proper) {place : Location} (hplace : ∀ name ∈ place, name.IsProper)
    (n : FileNode) : (t.put place n).Proper := by
  refine ⟨?_, fun e he => ?_⟩
  · rw [FileTree.put, List.map_cons, List.nodup_cons]
    refine ⟨fun hmem => ?_, ht.distinct.sublist (List.filter_sublist.map _)⟩
    obtain ⟨e, he, heq⟩ := List.mem_map.1 hmem
    exact absurd heq (by simpa using (List.mem_filter.1 he).2)
  · rcases List.mem_cons.1 he with rfl | he
    · exact hplace
    · exact ht.named e (List.mem_filter.1 he).1

theorem isProper_goTo {here : Location} (hhere : ∀ name ∈ here, name.IsProper) {step : String}
    (hstep : '/' ∉ step.toList) : ∀ name ∈ goTo here step, name.IsProper := by
  intro name hname
  rw [goTo] at hname
  split at hname
  · exact hhere name hname
  · rename_i hidle
    split at hname
    · exact hhere name (List.dropLast_subset _ hname)
    · rename_i hup
      rcases List.mem_append.1 hname with hname | hname
      · exact hhere name hname
      · obtain rfl := List.mem_singleton.1 hname
        exact ⟨hstep, fun h => hidle (.inl h), fun h => hidle (.inr h), hup⟩

theorem isProper_follow {steps : List String} (hsteps : ∀ step ∈ steps, '/' ∉ step.toList)
    {here there : Location} (hhere : ∀ name ∈ here, name.IsProper)
    (h : t.follow here steps = .ok there) : ∀ name ∈ there, name.IsProper := by
  induction steps generalizing here with
  | nil =>
      obtain rfl := Except.ok.inj h
      exact hhere
  | cons step rest ih =>
      obtain ⟨hstep, hrest⟩ := List.forall_mem_cons.1 hsteps
      exact ih hrest (isProper_goTo hhere hstep) (follow_cons_eq_ok_iff.1 h).2.2

/-- A path leads to places with proper names only. -/
theorem isProper_locate (hwork : ∀ name ∈ t.workplace, name.IsProper) {place : Location}
    (h : t.locate p = .ok place) : ∀ name ∈ place, name.IsProper := by
  refine isProper_follow (fun step hstep => ?_) ?_ (follow_of_locate h)
  · obtain ⟨part, hpart, rfl⟩ := List.mem_map.1 hstep
    rw [String.toList_ofList]
    exact Path.slash_not_mem_of_mem_splitOn hpart
  · rw [start]
    split
    · exact fun name hname => absurd hname List.not_mem_nil
    · exact hwork

/-- **Replacing a text keeps a tree proper.** -/
theorem Proper.replaceText (ht : t.Proper) (hwork : ∀ name ∈ t.workplace, name.IsProper)
    {content : String} (h : t.replaceText p content = .ok t') : t'.Proper := by
  obtain ⟨place, hplace, -, rfl⟩ := replaceText_eq_ok h
  exact ht.put (isProper_locate hwork hplace) _

/-! ### Listing a directory -/

theorem list_eq_ok_iff : t.list p = .ok names ↔
    ∃ home, t.locateDirectory p = .ok home ∧ t.entries.filterMap (fun e =>
      if e.1 ≠ [] ∧ e.1.dropLast = home then e.1.getLast? else none) = names := by
  rw [list, bind_eq_ok_iff]
  simp only [Except.ok.injEq]

theorem exists_list (hhome : t.locateDirectory p = .ok home) : ∃ names, t.list p = .ok names :=
  ⟨_, list_eq_ok_iff.2 ⟨home, hhome, rfl⟩⟩

/-- What an entry adds to the list of a directory. -/
theorem listed_iff {home : Location} {name : FileName} {place : Location} :
    (if place ≠ [] ∧ place.dropLast = home then place.getLast? else none) = some name ↔
      place = home ++ [name] := by
  constructor
  · intro h
    split at h
    · rename_i hplace
      rw [← hplace.2, List.dropLast_append_getLast? name h]
    · simp at h
  · rintro rfl
    simp

/-- **A directory lists the names with something behind them.** -/
theorem mem_list_iff (hhome : t.locateDirectory p = .ok home) (hnames : t.list p = .ok names)
    {name : FileName} : name ∈ names ↔ t.node? (home ++ [name]) ≠ none := by
  obtain ⟨home', hhome', rfl⟩ := list_eq_ok_iff.1 hnames
  obtain rfl := Except.ok.inj (hhome.symm.trans hhome')
  have hlisted : ∀ e ∈ t.entries, e.1 = home ++ [name] ↔ ¬(home ++ [name] != e.1) = true :=
    fun e _ => by rw [bne_iff_ne, not_ne_iff, eq_comm]
  rw [node?, if_neg (by simp), Ne, List.lookup_eq_none_iff, List.mem_filterMap]
  simp only [listed_iff, not_forall, exists_prop]
  exact exists_congr fun e => and_congr_right (hlisted e)

/-- **A directory lists a name once.** -/
theorem Proper.nodup_list (ht : t.Proper) (hnames : t.list p = .ok names) : names.Nodup := by
  obtain ⟨home, -, rfl⟩ := list_eq_ok_iff.1 hnames
  have hdistinct := List.pairwise_map.1 ht.distinct
  refine hdistinct.filterMap _ fun e f hne name hname other hother => ?_
  rintro rfl
  rw [listed_iff] at hname hother
  exact hne (hname.trans hother.symm)

theorem Proper.isProper_of_mem_list (ht : t.Proper) (hnames : t.list p = .ok names)
    {name : FileName} (hmem : name ∈ names) : name.IsProper := by
  obtain ⟨home, -, rfl⟩ := list_eq_ok_iff.1 hnames
  obtain ⟨e, he, hname⟩ := List.mem_filterMap.1 hmem
  rw [listed_iff] at hname
  exact ht.named e he name (by simp [hname])

/-! ### Reading behind a name -/

/-- **What is read behind a name is what lies at its place.** -/
theorem readText_join_congr {name : String} (hname : Path.IsName name)
    (hhome : t.locateDirectory directory = .ok home)
    (hhome' : t'.locateDirectory directory = .ok home')
    (hsame : t'.node? (home' ++ [.text name]) = t.node? (home ++ [.text name])) :
    t'.readText (directory.join name) = t.readText (directory.join name) := by
  simp only [readText, readContent, locate_join hname hhome, locate_join hname hhome']
  split
  · rfl
  · split
    · rfl
    · split
      · rfl
      · simp only [bind, Except.bind, hsame]

end FileTree

end RanSlicing
