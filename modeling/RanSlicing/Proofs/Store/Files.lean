/-
A store in files keeps the laws.

All records lie in one directory, so writing one leaves the others alone as soon as no two have
one name.  Masks differ in the number of their slice, which is read back from the name; that the
policies are called like no mask is for the settings to say (`Apart`), and the names that the
radio stack expects do.

A mask goes out as digits and comes back from a trimmed line that is cut or padded to the pool,
so it comes back as it was only if it has the width of the pool.  Policies come back whenever the
slices in the table can be written as numbers at all.
-/
import RanSlicing.Proofs.FileTree.Basic
import RanSlicing.Proofs.Mask.Text
import RanSlicing.Proofs.Store.Laws
import RanSlicing.Proofs.Store.PolicyRecord
import RanSlicing.Store.Files

namespace RanSlicing

open Number (wordMax natText)
open Store

/-! ### The names of the records -/

namespace RecordLayout

/-- The name of a file that is called by a number. -/
def numbered (stem : String) (n : Nat) : String := stem ++ natText n ++ ".txt"

theorem toList_numbered (stem : String) (n : Nat) :
    (numbered stem n).toList = stem.toList ++ (natText n).toList ++ ".txt".toList := by
  simp only [numbered, String.toList_append]

theorem numbered_injective {stem : String} {a b : Nat} (h : numbered stem a = numbered stem b) :
    a = b := by
  have hlist := congrArg String.toList h
  rw [toList_numbered, toList_numbered] at hlist
  have hnumbers := List.append_cancel_left (List.append_cancel_right hlist)
  exact Number.natText_injective (String.toList_inj.1 hnumbers)

/-- Such a file has a name whatever the stem is, because of its ending. -/
theorem isName_numbered {stem : String} (h : '/' ∉ stem.toList) (n : Nat) :
    Path.IsName (numbered stem n) := by
  have hlong : 4 ≤ (numbered stem n).toList.length := by
    rw [toList_numbered, List.length_append]
    exact Nat.le_add_left 4 _
  have hne : ∀ other : String, other.toList.length < 4 → numbered stem n ≠ other := by
    intro other hshort heq
    rw [heq] at hlong
    omega
  refine ⟨?_, hne "" (by decide), hne "." (by decide), hne ".." (by decide)⟩
  rw [toList_numbered]
  simp only [List.mem_append, not_or]
  refine ⟨⟨h, ?_⟩, by decide⟩
  intro hmem
  exact absurd (Number.isDigit_of_mem_natText hmem) (by decide)

/-- What the files of the masks are called before their number. -/
def stem (l : RecordLayout) : String := (if l.uplink then "ul_" else "") ++ l.maskPrefix

theorem slash_not_mem_stem {l : RecordLayout} (h : '/' ∉ l.maskPrefix.toList) :
    '/' ∉ l.stem.toList := by
  rw [stem, String.toList_append, List.mem_append, not_or]
  refine ⟨?_, h⟩
  split <;> decide

/-- What the file of a slice's mask is called. -/
def maskName (l : RecordLayout) (slice : Nat) : String :=
  (if l.uplink then "ul_" else "") ++ l.maskPrefix ++ natText slice ++ ".txt"

theorem toList_maskName (l : RecordLayout) (slice : Nat) :
    (l.maskName slice).toList
      = (if l.uplink then "ul_" else "").toList ++ l.maskPrefix.toList
        ++ (natText slice).toList ++ ".txt".toList := by
  simp only [maskName, String.toList_append]

/-- Each record is called something, and the policies are called like no mask. -/
structure Apart (l : RecordLayout) : Prop where
  maskPlain : '/' ∉ l.maskPrefix.toList
  policyName : Path.IsName l.policyFile
  apart : ∀ slice, l.maskName slice ≠ l.policyFile

theorem isName_maskName {l : RecordLayout} (h : '/' ∉ l.maskPrefix.toList) (slice : Nat) :
    Path.IsName (l.maskName slice) :=
  isName_numbered (slash_not_mem_stem h) slice

/-- **The masks lie in one directory**, where each is called by the number of its slice.  The names
in the settings may lead into directories of their own. -/
theorem exists_maskHome (l : RecordLayout) : ∃ (home : Path) (stem : String), '/' ∉ stem.toList ∧
    ∀ slice, l.maskPath slice = home.join (numbered stem slice) := by
  by_cases hplain : '/' ∈ l.stem.toList
  · obtain ⟨last, others, hreverse, hlast⟩ := List.eq_append_cons_of_mem
      (List.mem_reverse.2 hplain)
    have hstem : l.stem = String.ofList others.reverse ++ "/" ++ String.ofList last.reverse := by
      refine String.toList_inj.1 ?_
      rw [← List.reverse_inj, hreverse]
      simp
    have hname : '/' ∉ (String.ofList last.reverse).toList := by simpa using hlast
    refine ⟨l.directory.join (String.ofList others.reverse ++ "/"), _, hname, fun slice => ?_⟩
    rw [← Path.join_behind _ _ (isName_numbered hname slice)]
    show l.directory.join (l.stem ++ natText slice ++ ".txt") = _
    rw [hstem, numbered]
    simp only [String.append_assoc]
  · exact ⟨l.directory, l.stem, hplain, fun slice => rfl⟩

/-- The names that the radio stack expects are apart, in whatever directory. -/
theorem apart_of_standard_names {l : RecordLayout} (hmask : l.maskPrefix = standard.maskPrefix)
    (hpolicy : l.policyFile = standard.policyFile) : Apart l := by
  refine ⟨by rw [hmask]; decide, ?_, fun slice heq => ?_⟩
  · rw [hpolicy]
    exact ⟨by decide, by decide, by decide, by decide⟩
  · -- The names differ in their seventh letter, and with a mark for the uplink in their first.
    have hlist := congrArg String.toList heq
    rw [toList_maskName, hmask, hpolicy] at hlist
    split at hlist
    · have hletter := congrArg (fun cs : List Char => cs[0]?) hlist
      rw [List.append_assoc, List.append_assoc] at hletter
      simp [standard] at hletter
    · have hletter := congrArg (fun cs : List Char => cs[6]?) hlist
      rw [List.append_assoc, List.append_assoc] at hletter
      simp [standard] at hletter

end RecordLayout

namespace FileStore

open RecordLayout

/-! ### Records -/

theorem readRecord_eq_some {s : FileStore} {path : Path} {record : String}
    (h : s.files.readText path = .ok record) : s.readRecord path = .ok (some record) := by
  rw [readRecord, h]

/-- What one store reads another one with the same texts reads. -/
theorem readRecord_congr {s t : FileStore} {path : Path}
    (h : t.files.readText path = s.files.readText path) :
    t.readRecord path = s.readRecord path := by
  rw [readRecord, readRecord, h]

/-! ### Masks in files -/

theorem readMask_congr (s t : FileStore) (hlayout : t.layout = s.layout) (hpool : t.pool = s.pool)
    {slice : Nat}
    (h : t.files.readText (s.layout.maskPath slice) = s.files.readText (s.layout.maskPath slice)) :
    t.readMask slice = s.readMask slice := by
  have hrecord : t.readRecord (s.layout.maskPath slice) = s.readRecord (s.layout.maskPath slice) :=
    readRecord_congr h
  simp only [readMask, readMaskText, hlayout, hpool, hrecord]

theorem width_of_readMask {s : FileStore} {slice : Nat} {mask : Mask}
    (h : s.readMask slice = .ok mask) : mask.width = s.pool.size := by
  obtain ⟨record, -, hmask⟩ := bind_eq_ok_iff.1 h
  cases record with
  | none =>
      rw [← Except.ok.inj hmask]
      exact Mask.width_unassigned s.pool.size
  | some text =>
      simp only [readMaskText] at hmask
      split at hmask
      · rw [← Except.ok.inj hmask]
        exact Mask.width_unassigned s.pool.size
      · split at hmask
        · simp at hmask
        · rw [← Except.ok.inj hmask]
          exact Mask.width_resized _ _

/-- A slice without a file holds nothing. -/
theorem readMask_of_not_isFile {s : FileStore} {slice : Nat} {mask : Mask}
    (hnone : s.files.isFile (s.layout.maskPath slice) = false)
    (h : s.readMask slice = .ok mask) : mask = s.pool.emptyMask := by
  obtain ⟨record, hrecord, hmask⟩ := bind_eq_ok_iff.1 h
  cases record with
  | none => exact (Except.ok.inj hmask).symm
  | some text =>
      -- A text was read, so there is a file.
      exfalso
      have htext : s.files.readText (s.layout.maskPath slice) = .ok text := by
        unfold readRecord at hrecord
        split at hrecord
        · rename_i htext
          rw [htext, Option.some.inj (Except.ok.inj hrecord)]
        · simp at hrecord
        · simp at hrecord
      rw [FileTree.isFile_of_readText htext] at hnone
      exact Bool.noConfusion hnone

/-- A mask is read back from its text, cut or padded to the pool. -/
theorem readMaskText_text (s : FileStore) (path : Path) (mask : Mask) :
    s.readMaskText path (mask.text ++ "\n") = .ok (mask.resized s.pool.size) := by
  rw [readMaskText, mask.lines_text, List.headD_cons, Mask.trim_digits]
  split
  · rename_i hempty
    rw [Mask.eq_unassigned_of_text_eq_empty hempty]
    exact congrArg Except.ok (Mask.resized_unassigned 0 s.pool.size).symm
  · have htext : Mask.ofText? (String.ofList mask.digits) = .ok mask := Mask.ofText?_text mask
    rw [htext]

/-- A mask that is put in place is read there, cut or padded to the pool. -/
theorem readMask_of_replaceText {s : FileStore} {slice : Nat} {mask : Mask} {files : FileTree}
    (h : s.files.replaceText (s.layout.maskPath slice) (mask.text ++ "\n") = .ok files)
    (stats : WriteStats) : ({ s with files, stats } : FileStore).readMask slice
      = .ok (mask.resized s.pool.size) := by
  rw [readMask]
  simp only [readRecord_eq_some (s := { s with files, stats })
    (FileTree.readText_replaceText h), bind, Except.bind]
  exact readMaskText_text _ _ mask

/-- It leaves the masks of the other slices alone, whatever the records are called. -/
theorem readMask_of_replaceText_ne {s : FileStore} {slice other : Nat} {record : String}
    {files : FileTree} (h : s.files.replaceText (s.layout.maskPath slice) record = .ok files)
    (hne : other ≠ slice) (stats : WriteStats) :
    ({ s with files, stats } : FileStore).readMask other = s.readMask other := by
  obtain ⟨home, stem, hstem, hpath⟩ := s.layout.exists_maskHome
  refine readMask_congr s { s with files, stats } rfl rfl ?_
  rw [hpath] at h ⊢
  exact FileTree.readText_sibling (isName_numbered hstem slice) (isName_numbered hstem other)
    (fun heq => hne (numbered_injective heq)) h

/-! ### Policies in files -/

theorem readPolicies_congr (s t : FileStore) (hlayout : t.layout = s.layout)
    (htenants : t.tenants = s.tenants)
    (h : t.files.readText s.layout.policyPath = s.files.readText s.layout.policyPath) :
    t.readPolicies = s.readPolicies := by
  have hrecord : t.readRecord s.layout.policyPath = s.readRecord s.layout.policyPath :=
    readRecord_congr h
  simp only [readPolicies, hlayout, htenants, hrecord]

/-- Without a record the policies are those of an empty one. -/
theorem readPolicies_eq_ok {s : FileStore} {policies : PolicyTable}
    (h : s.readPolicies = .ok policies) :
    ∃ record, s.readRecord s.layout.policyPath = .ok record ∧
      PolicyRecord.read s.layout.policyPath s.tenants (record.getD "") = .ok policies := by
  obtain ⟨record, hrecord, hread⟩ := bind_eq_ok_iff.1 h
  refine ⟨record, hrecord, ?_⟩
  cases record with
  | none => rw [Option.getD_none, PolicyRecord.read_empty]; exact hread
  | some text => exact hread

theorem writePolicies_of_replaceText {s : FileStore} {policies : PolicyTable}
    {record : Option String} {files : FileTree}
    (hrecord : s.readRecord s.layout.policyPath = .ok record)
    (h : s.files.replaceText s.layout.policyPath (PolicyRecord.update (record.getD "") policies)
      = .ok files) :
    ∃ stats, s.writePolicies policies = (.ok (), { s with files, stats }) := by
  refine ⟨{ s.stats with policies := s.stats.policies + 1 }, ?_⟩
  unfold writePolicies writeRecord
  simp only [hrecord, h]

/-- What a record that cannot be read is reported as. -/
theorem readRecord_eq_error {s : FileStore} {path : Path} {e : Fault}
    (h : s.readRecord path = .error e) : ∃ cause, e = .unreadable path cause := by
  unfold readRecord at h
  split at h
  · cases h
  · cases h
  · exact ⟨_, (Except.error.inj h).symm⟩

/-- The store after policies were written, or after they were refused: where the record cannot be
read before anything is counted, else where it is put in place. -/
theorem writePolicies_cases (s : FileStore) (policies : PolicyTable) :
    (∃ record files, s.readRecord s.layout.policyPath = .ok record ∧
        s.files.replaceText s.layout.policyPath (PolicyRecord.update (record.getD "") policies)
          = .ok files ∧
        s.writePolicies policies = (.ok (),
          { s with files, stats := { s.stats with policies := s.stats.policies + 1 } })) ∨
      (∃ record cause, s.readRecord s.layout.policyPath = .ok record ∧
        s.writePolicies policies = (.error (.unwritable s.layout.policyPath cause),
          { s with stats := { s.stats with failed := s.stats.failed + 1 } })) ∨
      ∃ e cause, s.readRecord s.layout.policyPath = .error e ∧
        s.writePolicies policies = (.error (.unreadable s.layout.policyPath cause), s) := by
  cases hrecord : s.readRecord s.layout.policyPath with
  | error e =>
      obtain ⟨cause, rfl⟩ := readRecord_eq_error hrecord
      refine .inr (.inr ⟨_, cause, rfl, ?_⟩)
      unfold writePolicies
      simp only [hrecord]
  | ok record =>
      cases hfiles : s.files.replaceText s.layout.policyPath
        (PolicyRecord.update (record.getD "") policies) with
      | ok files =>
          refine .inl ⟨record, files, rfl, hfiles, ?_⟩
          unfold writePolicies writeRecord
          simp only [hrecord, hfiles]
      | error e =>
          refine .inr (.inl ⟨record, e, rfl, ?_⟩)
          unfold writePolicies writeRecord
          simp only [hrecord, hfiles]

/-- A refused write of the policies leaves everything but the count as it was. -/
theorem store_of_policies_refused {s t : FileStore} {policies : PolicyTable} {e : Fault}
    (h : s.writePolicies policies = (.error e, t)) : ∃ stats, t = { s with stats } := by
  rcases s.writePolicies_cases policies with
    ⟨record, files, -, -, hstore⟩ | ⟨record, cause, -, hstore⟩ | ⟨e', cause, -, hstore⟩
  · cases h.symm.trans hstore
  · cases h.symm.trans hstore
    exact ⟨_, rfl⟩
  · cases h.symm.trans hstore
    exact ⟨s.stats, rfl⟩

/-- A write of the policies that went through put the record in place. -/
theorem store_of_policies_accepted {s t : FileStore} {policies : PolicyTable}
    (h : s.writePolicies policies = (.ok (), t)) :
    ∃ record files stats, s.readRecord s.layout.policyPath = .ok record ∧
      s.files.replaceText s.layout.policyPath (PolicyRecord.update (record.getD "") policies)
        = .ok files ∧ t = { s with files, stats } := by
  rcases s.writePolicies_cases policies with
    ⟨record, files, hrecord, hfiles, hstore⟩ | ⟨record, cause, -, hstore⟩ | ⟨e', cause, -, hstore⟩
  · cases h.symm.trans hstore
    exact ⟨record, files, _, hrecord, hfiles, rfl⟩
  · cases h.symm.trans hstore
  · cases h.symm.trans hstore

/-- Policies that were written over ones that can be read are read, and of slices they do not
have the old ones. -/
theorem exists_readPolicies {s t : FileStore} {old policies : PolicyTable}
    (hread : s.readPolicies = .ok old) (hwords : ∀ slice ∈ policies.keys, slice ≤ wordMax)
    (hwrite : s.writePolicies policies = (.ok (), t)) :
    ∃ new, t.readPolicies = .ok new ∧
      ∀ slice, new.get? slice = (policies.get? slice).or (old.get? slice) := by
  obtain ⟨record, hrecord, hold⟩ := readPolicies_eq_ok hread
  obtain ⟨record', files, stats, hrecord', hfiles, rfl⟩ := store_of_policies_accepted hwrite
  rw [hrecord] at hrecord'
  obtain rfl := Except.ok.inj hrecord'
  obtain ⟨new, hnew, hget⟩ := PolicyRecord.read_update hold hwords
  have hwritten : ({ s with files, stats } : FileStore).readRecord s.layout.policyPath
      = .ok (some (PolicyRecord.update (record.getD "") policies)) :=
    readRecord_eq_some (FileTree.readText_replaceText hfiles)
  refine ⟨new, ?_, hget⟩
  rw [readPolicies]
  simp only [hwritten, bind, Except.bind, hnew]

/-- Only slices that a record can name are on record. -/
theorem le_of_isSome_readPolicies {s : FileStore} {policies : PolicyTable}
    (htenants : s.tenants ≤ wordMax) (h : s.readPolicies = .ok policies) {slice : Nat}
    (hslice : (policies.get? slice).isSome) : slice ≤ wordMax := by
  obtain ⟨record, -, hread⟩ := readPolicies_eq_ok h
  rw [(PolicyRecord.get?_of_read hread).2, Option.isSome_or, Bool.or_eq_true] at hslice
  rcases hslice with hword | hfilled
  · exact PolicyRecord.le_of_isSome_lastWord hword
  · have hlt : slice < s.tenants := by
      by_contra hge
      rw [if_neg hge] at hfilled
      exact Bool.noConfusion hfilled
    omega

/-- A table that has all that was on record is read back as it is. -/
theorem readPolicies_of_extends {s t : FileStore} {old policies : PolicyTable}
    (hread : s.readPolicies = .ok old) (hwords : ∀ slice ∈ policies.keys, slice ≤ wordMax)
    (hkeeps : ∀ slice, (old.get? slice).isSome → (policies.get? slice).isSome)
    (hwrite : s.writePolicies policies = (.ok (), t)) : t.readPolicies = .ok policies := by
  obtain ⟨new, hnew, hget⟩ := exists_readPolicies hread hwords hwrite
  rw [hnew]
  refine congrArg Except.ok (SortedMap.ext_get? fun slice => ?_)
  rw [hget]
  cases hslice : policies.get? slice with
  | some policy => rfl
  | none =>
      rw [Option.none_or]
      cases hold : old.get? slice with
      | none => rfl
      | some policy =>
          have := hkeeps slice (by rw [hold]; rfl)
          rw [hslice] at this
          exact Bool.noConfusion this

/-- Setting policies takes no slice out of a table. -/
theorem isSome_get?_foldl_set {slice : Nat} :
    ∀ (changes : List (Nat × Policy)) (table : PolicyTable), (table.get? slice).isSome →
      ((changes.foldl (fun table change => (table.set change.1 change.2).1) table).get?
        slice).isSome := by
  intro changes
  induction changes with
  | nil => intro table h; exact h
  | cons change rest ih =>
      intro table h
      refine ih _ ?_
      show ((table.insert change.1 change.2).get? slice).isSome
      by_cases hslice : slice = change.1
      · rw [hslice, SortedMap.get?_insert_self]
        rfl
      · rw [SortedMap.get?_insert_ne _ _ hslice]
        exact h

/-- **Policies that are written are read.**  After a write over policies that can be read, the
policies can be read; they are the new ones, and the old ones for the slices that the new table
does not have.  A table that came about by setting policies in the one that was read is read back
exactly.  The slices are the ones that a machine word can number. -/
theorem readPolicies_writePolicies {s t : FileStore} {old policies : PolicyTable}
    (hread : s.readPolicies = .ok old) (hwords : ∀ slice ∈ policies.keys, slice ≤ wordMax)
    (hwrite : s.writePolicies policies = (.ok (), t)) :
    (∃ new, t.readPolicies = .ok new ∧
      ∀ slice, new.get? slice = (policies.get? slice).or (old.get? slice)) ∧
    ∀ changes : List (Nat × Policy),
      policies = changes.foldl (fun table change => (table.set change.1 change.2).1) old →
        t.readPolicies = .ok policies := by
  refine ⟨exists_readPolicies hread hwords hwrite, fun changes hchanges => ?_⟩
  refine readPolicies_of_extends hread hwords (fun slice hold => ?_) hwrite
  rw [hchanges]
  exact isSome_get?_foldl_set changes old hold

/-- A record written by hand: a remark, two lines for slice 1, of which the last one counts, and a
line for a slice that this cell does not have. -/
theorem readPolicies_writePolicies_by_hand :
    let record := "# ours\n+1 :: 2\r\n7::1\n1::0"
    let tree := (FileTree.empty.put [.text "r"] .directory).put [.text "r", .text "p.txt"]
      (.file (.text record) 0o644)
    let s : FileStore := ⟨⟨⟨"/r"⟩, "m_", "p.txt", false⟩, ⟨4, 4⟩, 2, tree, {}⟩
    let old : PolicyTable := .ofList [(0, .roundRobin), (1, .roundRobin), (7, .waterfilling)]
    let policies : PolicyTable := .ofList [(1, .proportional)]
    let t := (s.writePolicies policies).2
    s.readPolicies = .ok old ∧ (∀ slice ∈ policies.keys, slice ≤ wordMax) ∧
      s.writePolicies policies = (.ok (), t) ∧
      ∃ new, t.readPolicies = .ok new ∧
        ∀ slice, new.get? slice = (policies.get? slice).or (old.get? slice) := by
  intro record tree s old policies t
  have hread : s.readPolicies = .ok old := by decide +kernel
  have hwords : ∀ slice ∈ policies.keys, slice ≤ wordMax := by decide +kernel
  have hwrite : s.writePolicies policies = (.ok (), t) := by decide +kernel
  exact ⟨hread, hwords, hwrite, (readPolicies_writePolicies hread hwords hwrite).1⟩

/-! ### The laws -/

/-- What no operation changes about a store in files. -/
structure SetUp (layout : RecordLayout) (pool : Pool) (tenants : Nat) (s : FileStore) : Prop where
  layout : s.layout = layout
  pool : s.pool = pool
  tenants : s.tenants = tenants

theorem writeMask_of_replaceText {s : FileStore} {slice : Nat} {mask : Mask} {files : FileTree}
    (h : s.files.replaceText (s.layout.maskPath slice) (mask.text ++ "\n") = .ok files) :
    ∃ stats, s.writeMask slice mask = (.ok (), { s with files, stats }) := by
  refine ⟨{ s.stats with masks := s.stats.masks + 1 }, ?_⟩
  unfold writeMask writeRecord
  simp only [h]

/-- The store after a mask was written, or refused. -/
theorem writeMask_cases (s : FileStore) (slice : Nat) (mask : Mask) :
    (∃ files, s.files.replaceText (s.layout.maskPath slice) (mask.text ++ "\n") = .ok files ∧
        s.writeMask slice mask = (.ok (),
          { s with files, stats := { s.stats with masks := s.stats.masks + 1 } })) ∨
      ∃ cause, s.writeMask slice mask = (.error (.unwritable (s.layout.maskPath slice) cause),
        { s with stats := { s.stats with failed := s.stats.failed + 1 } }) := by
  cases hfiles : s.files.replaceText (s.layout.maskPath slice) (mask.text ++ "\n") with
  | ok files =>
      refine .inl ⟨files, rfl, ?_⟩
      unfold writeMask writeRecord
      simp only [hfiles]
  | error e =>
      refine .inr ⟨e, ?_⟩
      unfold writeMask writeRecord
      simp only [hfiles]

/-- A mask that was accepted was put in place. -/
theorem store_of_mask_accepted {s t : FileStore} {slice : Nat} {mask : Mask}
    (h : s.writeMask slice mask = (.ok (), t)) :
    ∃ files stats, s.files.replaceText (s.layout.maskPath slice) (mask.text ++ "\n") = .ok files ∧
      t = { s with files, stats } := by
  rcases s.writeMask_cases slice mask with ⟨files, hfiles, hstore⟩ | ⟨cause, hstore⟩
  · cases h.symm.trans hstore
    exact ⟨files, _, hfiles, rfl⟩
  · cases h.symm.trans hstore

/-- A refused write of a mask leaves everything but the count as it was. -/
theorem store_of_mask_refused {s t : FileStore} {slice : Nat} {mask : Mask} {e : Fault}
    (h : s.writeMask slice mask = (.error e, t)) : ∃ stats, t = { s with stats } := by
  rcases s.writeMask_cases slice mask with ⟨files, -, hstore⟩ | ⟨cause, hstore⟩
  · cases h.symm.trans hstore
  · cases h.symm.trans hstore
    exact ⟨_, rfl⟩

theorem sameRecords_stats (s : FileStore) (stats : WriteStats) :
    SameRecords s { s with stats } :=
  ⟨fun _ => readMask_congr s { s with stats } rfl rfl rfl, fun _ => rfl,
    readPolicies_congr s { s with stats } rfl rfl rfl⟩

/-- A mask that is put in place is read there, and no other record is touched. -/
theorem masksWritten_of_replaceText {s : FileStore} (hapart : s.layout.Apart) {slice : Nat}
    {mask : Mask} (hwidth : mask.width = s.pool.size) {files : FileTree}
    (h : s.files.replaceText (s.layout.maskPath slice) (mask.text ++ "\n") = .ok files)
    (stats : WriteStats) : MasksWritten s { s with files, stats } [(slice, mask)] := by
  have hname := isName_maskName hapart.maskPlain
  refine ⟨fun other => ?_, fun other => ?_, ?_⟩
  · by_cases heq : other = slice
    · subst heq
      rw [List.lookup_cons_self]
      show FileStore.readMask _ _ = _
      rw [readMask_of_replaceText h, Mask.resized_eq_self hwidth]
      rfl
    · rw [SortedMap.lookup_cons_ne heq]
      exact readMask_of_replaceText_ne h heq stats
  · by_cases heq : other = slice
    · subst heq
      rw [List.lookup_cons_self]
      exact congrArg Except.ok (FileTree.isFile_replaceText h)
    · rw [SortedMap.lookup_cons_ne heq]
      exact congrArg Except.ok (FileTree.isFile_sibling (hname _) (hname _)
        (fun hsame => heq (numbered_injective hsame)) h)
  · exact readPolicies_congr s { s with files, stats } rfl rfl
      (FileTree.readText_sibling (hname _) hapart.policyName (hapart.apart slice).symm h)

/-- Policies that are put in place touch no mask. -/
theorem masks_of_replaceText {s : FileStore} (hapart : s.layout.Apart) {record : String}
    {files : FileTree} (h : s.files.replaceText s.layout.policyPath record = .ok files)
    (stats : WriteStats) (slice : Nat) :
    Store.readMask ({ s with files, stats } : FileStore) slice = Store.readMask s slice ∧
      Store.hasMask? ({ s with files, stats } : FileStore) slice = Store.hasMask? s slice := by
  have hname := isName_maskName hapart.maskPlain slice
  constructor
  · exact readMask_congr s { s with files, stats } rfl rfl
      (FileTree.readText_sibling hapart.policyName hname (hapart.apart slice) h)
  · exact congrArg Except.ok
      (FileTree.isFile_sibling hapart.policyName hname (hapart.apart slice) h)

theorem keys_le_of_extends {s : FileStore} {old policies : PolicyTable}
    (htenants : s.tenants ≤ wordMax) (hread : s.readPolicies = .ok old)
    (h : Extends old policies) : ∀ slice ∈ policies.keys, slice ≤ wordMax := by
  intro slice hslice
  obtain ⟨policy, hpolicy⟩ := SortedMap.mem_keys_iff.1 hslice
  rcases h.named slice (by rw [hpolicy]; rfl) with hold | hword
  · exact le_of_isSome_readPolicies htenants hread hold
  · exact hword

theorem laws {layout : RecordLayout} (hapart : layout.Apart) (pool : Pool) {tenants : Nat}
    (htenants : tenants ≤ wordMax) :
    Laws (σ := FileStore) (SetUp layout pool tenants) (· = pool.size) where
  width_of_readMask := by
    intro s slice mask hs h
    rw [← hs.pool]
    exact width_of_readMask h
  unassigned_of_not_hasMask := by
    intro s slice mask _ hnone h unit
    rw [readMask_of_not_isFile (Except.ok.inj hnone) h]
    exact Mask.isSet_unassigned _ unit
  mask_accepted := by
    intro s t slice mask hs hfits h
    obtain ⟨files, stats, hfiles, rfl⟩ := store_of_mask_accepted h
    exact ⟨⟨hs.layout, hs.pool, hs.tenants⟩, masksWritten_of_replaceText
      (hs.layout ▸ hapart) (hs.pool ▸ hfits) hfiles stats⟩
  mask_refused := by
    intro s t slice mask e hs h
    obtain ⟨stats, rfl⟩ := store_of_mask_refused h
    exact ⟨⟨hs.layout, hs.pool, hs.tenants⟩, sameRecords_stats s stats⟩
  policies_accepted := by
    intro s t policies hs h
    obtain ⟨record, files, stats, -, hfiles, rfl⟩ := store_of_policies_accepted h
    have hmasks := masks_of_replaceText (hs.layout ▸ hapart) hfiles stats
    refine ⟨⟨hs.layout, hs.pool, hs.tenants⟩, fun slice => (hmasks slice).1,
      fun slice => (hmasks slice).2, fun old hread hextends => ?_⟩
    exact readPolicies_of_extends hread
      (keys_le_of_extends (hs.tenants ▸ htenants) hread hextends) hextends.keeps h
  policies_refused := by
    intro s t policies e hs h
    obtain ⟨stats, rfl⟩ := store_of_policies_refused h
    exact ⟨⟨hs.layout, hs.pool, hs.tenants⟩, sameRecords_stats s stats⟩

/-- **A store in files is faithful**, whatever the files hold, for masks of its pool. -/
theorem faithful {s : FileStore} (hapart : s.layout.Apart) (htenants : s.tenants ≤ wordMax) :
    Faithful s.pool.size s :=
  ⟨_, _, laws hapart s.pool htenants, rfl, rfl, rfl, rfl⟩

end FileStore

end RanSlicing
