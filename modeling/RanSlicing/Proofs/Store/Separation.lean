/-
How far the records are kept apart.

Masks have the numbers of their slices in their names, so they are apart whatever the settings call
them.  What the policies are called is free as long as it is something: it may be the name of a
mask, or lead to one on some other way.  Then a mask that is written takes the place of the policies,
and there are none to be read (`Separated.lost`).  Where no path meets the other, neither record
knows of the other one.
-/
import RanSlicing.Proofs.Store.PolicyGrammar

namespace RanSlicing

open PolicyRecord (WellFormed)

/-- The digits of a mask are no line of a policy record. -/
theorem Mask.not_wellFormed_digits {m : Mask} (h : 0 < m.width) : ¬WellFormed m.digits := by
  rintro (hsilent | ⟨slice, policy, before, after, hcut, -⟩)
  · rcases hsilent with hnil | hhead
    · rw [trim_digits, digits, List.map_eq_nil_iff] at hnil
      rw [width, hnil] at h
      exact Nat.lt_irrefl 0 h
    · rw [trim_digits] at hhead
      exact m.not_mem_digits (by decide) (by decide) (List.mem_of_head? hhead)
  · have hparts := hcut.parts
    rw [trim_digits] at hparts
    refine m.not_mem_digits (c := ':') (by decide) (by decide) ?_
    rw [hparts]
    simp

namespace RecordLayout

/-- The masks of two slices lie at paths that differ in more than their spelling. -/
theorem properSteps_maskPath_ne (l : RecordLayout) {a b : Nat} (h : a ≠ b) :
    (l.maskPath a).properSteps ≠ (l.maskPath b).properSteps := by
  obtain ⟨home, stem, hstem, hpath⟩ := l.exists_maskHome
  rw [hpath, hpath]
  exact Path.properSteps_join_ne home (isName_numbered hstem a) (isName_numbered hstem b)
    fun hname => h (numbered_injective hname)

theorem policyFile_ne_of_validate {l : RecordLayout} (h : l.validate = .ok ()) :
    l.policyFile ≠ "" := by
  unfold validate at h
  split at h
  · simp at h
  · split at h
    · simp at h
    · assumption

end RecordLayout

namespace FileStore

open RecordLayout

variable {s t : FileStore} {slice : Nat}

theorem readPolicies_of_not_meets {mask : Mask} (h : s.writeMask slice mask = (.ok (), t))
    (hapart : ¬s.files.Meets s.layout.policyPath (s.layout.maskPath slice)) :
    t.readPolicies = s.readPolicies := by
  obtain ⟨files, stats, hfiles, rfl⟩ := store_of_mask_accepted h
  exact readPolicies_congr s { s with files, stats } rfl rfl
    (FileTree.readText_of_not_meets hfiles hapart)

theorem readMask_of_not_meets {policies : PolicyTable}
    (h : s.writePolicies policies = (.ok (), t))
    (hapart : ¬s.files.Meets (s.layout.maskPath slice) s.layout.policyPath) :
    t.readMask slice = s.readMask slice := by
  obtain ⟨record, files, stats, -, hfiles, rfl⟩ := store_of_policies_accepted h
  exact readMask_congr s { s with files, stats } rfl rfl
    (FileTree.readText_of_not_meets hfiles hapart)

/-- Where the path of the policies meets the one of a mask, no policies are left after the mask is
written. -/
theorem readPolicies_of_meets (hvalid : s.layout.validate = .ok ()) {mask : Mask}
    (hwidth : 0 < mask.width) (h : s.writeMask slice mask = (.ok (), t))
    (hmeets : s.files.Meets s.layout.policyPath (s.layout.maskPath slice)) :
    ∃ e, t.readPolicies = .error e := by
  obtain ⟨files, stats, hfiles, rfl⟩ := store_of_mask_accepted h
  have hne : s.layout.policyPath.text ≠ "" :=
    Path.text_join_ne s.layout.directory (policyFile_ne_of_validate hvalid)
  rcases FileTree.readText_of_meets hfiles hmeets hne with htext | ⟨e, hfound, htext⟩
  · have hgrammar := grammatical_readPolicies (s := { s with files, stats })
      (readRecord_eq_some htext)
    rw [Option.getD_some, mask.lines_text] at hgrammar
    obtain ⟨-, -, -, fault, -, -, -, -, hfault, -⟩ := hgrammar.refused fun hall =>
      Mask.not_wellFormed_digits hwidth (hall _ List.mem_cons_self)
    exact ⟨fault, hfault⟩
  · have hrecord : ({ s with files, stats } : FileStore).readRecord s.layout.policyPath
        = .error (.unreadable s.layout.policyPath e) := by
      rw [readRecord, htext]
      cases e <;> first | rfl | exact absurd rfl hfound
    refine ⟨.unreadable s.layout.policyPath e, ?_⟩
    rw [readPolicies]
    simp only [hrecord, bind, Except.bind]

/-- What keeps the records of a store in files apart, and what does not. -/
structure Separated (s : FileStore) : Prop where
  /-- The masks of two slices lie at paths that differ in more than their spelling. -/
  paths : ∀ a b, a ≠ b → (s.layout.maskPath a).properSteps ≠ (s.layout.maskPath b).properSteps
  /-- A mask that is written leaves the other slices their masks. -/
  masks : ∀ a b mask t, a ≠ b → s.writeMask a mask = (.ok (), t) → t.readMask b = s.readMask b
  /-- It leaves the policies as they are, unless their path meets the one of the mask. -/
  policies : ∀ a mask t, ¬s.files.Meets s.layout.policyPath (s.layout.maskPath a) →
    s.writeMask a mask = (.ok (), t) → t.readPolicies = s.readPolicies
  /-- If it does, a mask that has digits leaves no policies to be read. -/
  lost : ∀ a mask t, s.files.Meets s.layout.policyPath (s.layout.maskPath a) → 0 < mask.width →
    s.writeMask a mask = (.ok (), t) → ∃ e, t.readPolicies = .error e
  /-- Policies that are written leave a slice its mask, unless the path of the mask meets theirs. -/
  kept : ∀ a table t, ¬s.files.Meets (s.layout.maskPath a) s.layout.policyPath →
    s.writePolicies table = (.ok (), t) → t.readMask a = s.readMask a
  /-- Names that lead nowhere else are apart as soon as they differ. -/
  named : '/' ∉ s.layout.maskPrefix.toList → '/' ∉ s.layout.policyFile.toList →
    s.layout.policyFile ≠ "." → s.layout.policyFile ≠ ".." →
    ∀ a, s.layout.maskName a ≠ s.layout.policyFile →
      (s.layout.maskPath a).properSteps ≠ s.layout.policyPath.properSteps ∧
      (∀ mask t, s.writeMask a mask = (.ok (), t) → t.readPolicies = s.readPolicies) ∧
      ∀ table t, s.writePolicies table = (.ok (), t) → t.readMask a = s.readMask a

/-- **Valid settings keep the masks apart from each other**, and from the policies as far as their
paths do not meet. -/
theorem separated_of_validate (h : s.layout.validate = .ok ()) : s.Separated where
  paths _ _ := s.layout.properSteps_maskPath_ne
  masks := by
    intro a b mask t hne hwrite
    obtain ⟨files, stats, hfiles, rfl⟩ := store_of_mask_accepted hwrite
    exact readMask_of_replaceText_ne hfiles hne.symm stats
  policies _ _ _ hapart hwrite := readPolicies_of_not_meets hwrite hapart
  lost _ _ _ hmeets hwidth hwrite := readPolicies_of_meets h hwidth hwrite hmeets
  kept _ _ _ hapart hwrite := readMask_of_not_meets hwrite hapart
  named := by
    intro hmask hplain hhere hup a hne
    have hpolicy : Path.IsName s.layout.policyFile :=
      ⟨hplain, policyFile_ne_of_validate h, hhere, hup⟩
    have hname := isName_maskName hmask a
    refine ⟨Path.properSteps_join_ne _ hname hpolicy hne, fun mask t hwrite => ?_,
      fun table t hwrite => ?_⟩
    · obtain ⟨files, stats, hfiles, -⟩ := store_of_mask_accepted hwrite
      exact readPolicies_of_not_meets hwrite
        (FileTree.not_meets_sibling hname hpolicy hne.symm hfiles)
    · obtain ⟨record, files, stats, -, hfiles, -⟩ := store_of_policies_accepted hwrite
      exact readMask_of_not_meets hwrite (FileTree.not_meets_sibling hpolicy hname hne hfiles)

/-- The policies of an uplink are called like the mask that slice 0 has in the downlink. -/
theorem separated_of_validate_in_uplink :
    let layout : RecordLayout :=
      { RecordLayout.standard with
        directory := ⟨"/r"⟩, policyFile := "slice_allocation_mask_tenant_0.txt", uplink := true }
    let s : FileStore :=
      ⟨layout, ⟨4, 4⟩, 2, FileTree.empty.put [.text "r"] .directory, {}⟩
    let mask : Mask := ⟨[true, true, false, false]⟩
    let t := (s.writeMask 0 mask).2
    layout.validate = .ok () ∧ s.Separated ∧ s.writeMask 0 mask = (.ok (), t) ∧
      t.readMask 0 = .ok mask ∧ t.readPolicies = .ok (.uniform 2 .roundRobin) := by
  intro layout s mask t
  exact ⟨rfl, separated_of_validate rfl, by decide +kernel, by decide +kernel, by decide +kernel⟩

/-- **Valid settings may give two records one name.**  Writing the mask of slice 0 then leaves no
policies to be read, and writing the policies no mask. -/
theorem policies_lost_to_mask :
    let layout : RecordLayout :=
      { RecordLayout.standard with
        directory := ⟨"/r"⟩, policyFile := "slice_allocation_mask_tenant_0.txt" }
    let s : FileStore :=
      ⟨layout, ⟨4, 4⟩, 2, FileTree.empty.put [.text "r"] .directory, {}⟩
    let mask : Mask := ⟨[true, true, false, false]⟩
    let table : PolicyTable := .ofList [(1, .waterfilling)]
    let t := (s.writeMask 0 mask).2
    let u := (s.writePolicies table).2
    layout.validate = .ok () ∧ layout.maskPath 0 = layout.policyPath ∧
      s.writeMask 0 mask = (.ok (), t) ∧ s.readPolicies = .ok (.uniform 2 .roundRobin) ∧
      t.readPolicies = .error (.policyRecord layout.policyPath 1 (.policyLine "1100")) ∧
      s.writePolicies table = (.ok (), u) ∧ s.readMask 0 = .ok (.unassigned 4) ∧
      u.readMask 0 = .error (.maskRecord layout.policyPath (.maskCharacter ':' 1)) := by
  intro layout s mask table t u
  refine ⟨rfl, rfl, ?_⟩
  decide +kernel

end FileStore

end RanSlicing
