/-
What one look at the directory of the metrics finds.

The users are the names in the directory without the ending that says so, sorted.  Listing and
sorting lose the order in which the directory comes, so the users are settled by which names it has
(`mem_usersAmong_iff`, `usersAmong_ascending`).  Each of them is read from the place of their own
name, and a fault there costs that one record.  Two directories with the same entries but for one
name therefore find the same of everybody else (`collect_isolated`).
-/
import RanSlicing.Proofs.FileTree.Listing
import RanSlicing.Proofs.Telemetry.Table
import RanSlicing.Telemetry.Source

namespace RanSlicing

theorem Text.length_ofList_le_utf8ByteSize (cs : List Char) :
    (String.ofList cs).length ≤ (String.ofList cs).utf8ByteSize := by
  induction cs with
  | nil => exact Nat.zero_le _
  | cons c cs ih =>
      have hc := c.utf8Size_pos
      rw [FileTree.utf8ByteSize_ofList_cons, String.utf8ByteSize_singleton]
      simp only [String.length_ofList, List.length_cons] at ih ⊢
      omega

/-- A text has no more characters than bytes. -/
theorem Text.length_le_utf8ByteSize (text : String) : text.length ≤ text.utf8ByteSize := by
  have := Text.length_ofList_le_utf8ByteSize text.toList
  rwa [String.ofList_toList] at this

namespace TelemetrySettings

variable {s : TelemetrySettings} {t t' : FileTree} {home home' : Location}
  {names names' : List FileName} {user : String}

/-! ### The users of a directory -/

/-- A directory with these names has a file of the user, and not a hidden one. -/
def HasFile (names : List FileName) (user : String) : Prop :=
  .text (user ++ fileSuffix) ∈ names ∧ (user ++ fileSuffix).toList.head? ≠ some '.'

instance (names : List FileName) (user : String) : Decidable (HasFile names user) :=
  inferInstanceAs (Decidable (_ ∧ _))

/-- A name that ends as the names of metrics do has the user in front. -/
theorem eq_append_fileSuffix_iff {name : String} : name = user ++ fileSuffix ↔
    fileSuffix.toList.isSuffixOf name.toList = true ∧
      String.ofList (name.toList.take (name.toList.length - fileSuffix.length)) = user := by
  rw [List.isSuffixOf_iff_suffix, ← String.length_toList]
  constructor
  · rintro rfl
    rw [String.toList_append]
    exact ⟨List.suffix_append .., by simp⟩
  · rintro ⟨⟨front, hfront⟩, rfl⟩
    rw [← String.toList_inj, String.toList_append, String.toList_ofList, ← hfront]
    simp

theorem userOfFile?_eq_some_iff {name : String} : s.userOfFile? name = some user ↔
    name = user ++ fileSuffix ∧ name.toList.head? ≠ some '.' ∧
      s.minUserIdLength ≤ user.utf8ByteSize := by
  rw [eq_append_fileSuffix_iff]
  simp only [userOfFile?]
  split
  · rename_i hhidden
    simp [hhidden]
  · rename_i hseen
    split
    · rename_i hsuffix
      split
      · rename_i hlong
        rw [Option.some.injEq]
        constructor
        · rintro rfl
          exact ⟨⟨hsuffix, rfl⟩, hseen, hlong⟩
        · rintro ⟨⟨-, huser⟩, -⟩
          exact huser
      · rename_i hshort
        refine iff_of_false (by simp) ?_
        rintro ⟨⟨-, rfl⟩, -, hlong⟩
        exact hshort hlong
    · rename_i hsuffix
      exact iff_of_false (by simp) fun h => hsuffix h.1.1

theorem mem_usersAmong_iff : user ∈ s.usersAmong names ↔
    HasFile names user ∧ s.minUserIdLength ≤ user.utf8ByteSize := by
  rw [usersAmong, (List.mergeSort_perm ..).mem_iff, List.mem_filterMap, HasFile]
  constructor
  · rintro ⟨name, hname, huser⟩
    cases name with
    | bytes _ => simp at huser
    | text name =>
        obtain ⟨rfl, hseen, hlong⟩ := userOfFile?_eq_some_iff.1 huser
        exact ⟨⟨hname, hseen⟩, hlong⟩
  · rintro ⟨⟨hname, hseen⟩, hlong⟩
    exact ⟨_, hname, userOfFile?_eq_some_iff.2 ⟨rfl, hseen, hlong⟩⟩

/-- **The users are sorted, each listed once.** -/
theorem usersAmong_ascending (hnames : names.Nodup) : (s.usersAmong names).Pairwise (· < ·) := by
  have hsorted : (s.usersAmong names).Pairwise (· ≤ ·) := by
    refine (List.pairwise_mergeSort (fun a b c hab hbc => ?_) (fun a b => ?_) _).imp
      of_decide_eq_true
    · exact decide_eq_true (String.le_trans (of_decide_eq_true hab) (of_decide_eq_true hbc))
    · simpa using String.le_total a b
  have hdistinct : (s.usersAmong names).Pairwise (· ≠ ·) := by
    refine (List.mergeSort_perm ..).nodup_iff.2 (List.Pairwise.filterMap _ ?_ hnames)
    intro name other hne user huser user' huser'
    rintro rfl
    cases name with
    | bytes _ => simp at huser
    | text name =>
        cases other with
        | bytes _ => simp at huser'
        | text other =>
            have hname := (userOfFile?_eq_some_iff.1 huser).1
            have hother := (userOfFile?_eq_some_iff.1 huser').1
            exact hne (congrArg _ (hname.trans hother.symm))
  exact hsorted.imp₂ (fun a b hle hne => String.not_le.1 fun hge => hne (String.le_antisymm hle hge))
    hdistinct

/-- Users are settled by which names the directory has, in whatever order it lists them. -/
theorem usersAmong_filter_eq (hnames : names.Nodup) (hnames' : names'.Nodup) {p : String → Bool}
    (hsame : ∀ user, p user = true → (HasFile names' user ↔ HasFile names user)) :
    (s.usersAmong names').filter p = (s.usersAmong names).filter p := by
  -- Both lists ascend strictly, so they are equal once they have the same members.
  have hascending := (usersAmong_ascending (s := s) hnames).filter p
  have hascending' := (usersAmong_ascending (s := s) hnames').filter p
  have hperm : ((s.usersAmong names').filter p).Perm ((s.usersAmong names).filter p) := by
    rw [List.perm_ext_iff_of_nodup (hascending'.imp String.ne_of_lt)
      (hascending.imp String.ne_of_lt)]
    intro user
    simp only [List.mem_filter, mem_usersAmong_iff]
    constructor
    · rintro ⟨⟨hfile, hlong⟩, hp⟩
      exact ⟨⟨(hsame user hp).1 hfile, hlong⟩, hp⟩
    · rintro ⟨⟨hfile, hlong⟩, hp⟩
      exact ⟨⟨(hsame user hp).2 hfile, hlong⟩, hp⟩
  exact hperm.eq_of_pairwise (fun a b _ _ hab hba => absurd hab (String.lt_asymm hba)) hascending'
    hascending

theorem users_eq_usersAmong (hnames : t.list s.directory = .ok names) :
    s.users t = .ok (s.usersAmong names) := by
  simp only [users, hnames]

/-- **The users of a directory** are listed in order and each once: those with a file that is not
hidden and a name of at least so many bytes.  It makes a difference whether bytes or characters
are counted exactly if the name of some file has enough bytes but too few characters. -/
theorem users_selected (ht : t.Proper) (hnames : t.list s.directory = .ok names) :
    ∃ users, s.users t = .ok users ∧ users.Pairwise (· < ·) ∧
      (∀ user, user ∈ users ↔ HasFile names user ∧ s.minUserIdLength ≤ user.utf8ByteSize) ∧
      ((∀ user, user ∈ users ↔ HasFile names user ∧ s.minUserIdLength ≤ user.length) ↔
        ∀ user, HasFile names user → s.minUserIdLength ≤ user.utf8ByteSize →
          s.minUserIdLength ≤ user.length) := by
  refine ⟨_, users_eq_usersAmong hnames, usersAmong_ascending (ht.nodup_list hnames),
    fun user => mem_usersAmong_iff, ?_⟩
  simp only [mem_usersAmong_iff]
  constructor
  · intro hsame user hfile hbytes
    exact ((hsame user).1 ⟨hfile, hbytes⟩).2
  · intro henough user
    refine and_congr_right fun hfile => ⟨henough user hfile, fun hcharacters => ?_⟩
    exact Nat.le_trans hcharacters (Text.length_le_utf8ByteSize user)

/-- Five characters of ten bytes are taken for a user although ten characters are asked for. -/
theorem user_of_few_characters :
    let s : TelemetrySettings := ⟨⟨"m"⟩, 10, 4, 10⟩
    let t : FileTree := ⟨[([.text "m"], .directory),
      ([.text "m", .text "ééééé_metrics.csv"], .file (.text "slice_id\n0\n") 0o644)], []⟩
    let names : List FileName := [.text "ééééé_metrics.csv"]
    t.list s.directory = .ok names ∧ s.users t = .ok ["ééééé"] ∧
      ¬∀ user, user ∈ ["ééééé"] ↔ HasFile names user ∧ s.minUserIdLength ≤ user.length := by
  intro s t names
  have hnames : t.list s.directory = .ok names := by decide +kernel
  have husers : s.usersAmong names = ["ééééé"] := List.mergeSort_singleton _
  refine ⟨hnames, (users_eq_usersAmong hnames).trans (congrArg _ husers), fun h => ?_⟩
  exact absurd ((h "ééééé").1 (by decide)).2 (by decide +kernel)

/-- A directory that lists two users the other way round, beside a hidden file, a user with a short
name, a file of another kind and a name that is no text. -/
theorem users_selected_of_mixed_directory :
    let s : TelemetrySettings := ⟨⟨"m"⟩, 10, 4, 3⟩
    let t : FileTree := ⟨[([.text "m", .text "bé_metrics.csv"], .directory),
      ([.text "m", .bytes [255]], .directory), ([.text "m"], .directory),
      ([.text "m", .text ".abc_metrics.csv"], .file (.text "") 0o644),
      ([.text "m", .text "ab_metrics.csv"], .file (.text "") 0o644),
      ([.text "m", .text "abc_metrics.csv"], .file (.text "") 0o644),
      ([.text "m", .text "abc_metrics.txt"], .file (.text "") 0o644)], []⟩
    t.Proper ∧ ∃ users, s.users t = .ok users ∧ users.Pairwise (· < ·) ∧
      "abc" ∈ users ∧ "bé" ∈ users ∧ "ab" ∉ users ∧ ".abc" ∉ users := by
  intro s t
  have hproper : t.Proper := by decide +kernel
  have hnames : t.list s.directory = .ok [.text "bé_metrics.csv", .bytes [255],
      .text ".abc_metrics.csv", .text "ab_metrics.csv", .text "abc_metrics.csv",
      .text "abc_metrics.txt"] := by decide +kernel
  obtain ⟨users, husers, hascending, hmem, -⟩ := users_selected hproper hnames
  refine ⟨hproper, users, husers, hascending, ?_⟩
  simp only [hmem]
  decide +kernel

/-! ### One look -/

/-- The record a look has of a user, if it can read one. -/
def recordOf? (s : TelemetrySettings) (t : FileTree) (user : String) : Option UserRecord :=
  match s.readUser t user with
  | .ok record => record
  | .error _ => none

theorem recordOf?_eq_some_iff {record : UserRecord} :
    s.recordOf? t user = some record ↔ s.readUser t user = .ok (some record) := by
  unfold recordOf?
  cases s.readUser t user with
  | ok found => simp
  | error e => simp

theorem readUser_eq_some_iff {record : UserRecord} : s.readUser t user = .ok (some record) ↔
    ∃ content, t.readText (s.userPath user) = .ok content ∧
      MetricsTable.read user s.windowRows content = .ok (some record) := by
  unfold readUser
  cases t.readText (s.userPath user) with
  | error e => cases e <;> simp
  | ok content => simp [mapError_eq_ok_iff]

/-- The record of a user is that user's. -/
theorem user_of_recordOf? {record : UserRecord} (h : s.recordOf? t user = some record) :
    record.user = user := by
  obtain ⟨content, -, hread⟩ := readUser_eq_some_iff.1 (recordOf?_eq_some_iff.1 h)
  exact (MetricsTable.of_read_eq_some hread).1

theorem collect_eq (hnames : t.list s.directory = .ok names) :
    s.collect t = .ok ⟨(s.usersAmong names).filterMap (s.recordOf? t)⟩ := by
  rw [collect, users_eq_usersAmong hnames]
  rfl

/-- What a look has to find: the selected users whose file yields a record, sorted, each once. -/
structure Finds (s : TelemetrySettings) (t : FileTree) (w : MetricsWindow) : Prop where
  /-- The users are sorted, and none is there twice. -/
  ascending : (w.users.map (·.user)).Pairwise (· < ·)
  /-- The records are those read of the users of the directory. -/
  mem_iff : ∀ record, record ∈ w.users ↔
    (∃ users, s.users t = .ok users ∧ record.user ∈ users) ∧
      s.readUser t record.user = .ok (some record)

/-- The users of the records that are found are some of those asked for, in their order. -/
theorem map_user_filterMap (users : List String) :
    ((users.filterMap (s.recordOf? t)).map (·.user)).Sublist users := by
  induction users with
  | nil => exact .slnil
  | cons user rest ih =>
      cases hrecord : s.recordOf? t user with
      | none =>
          rw [List.filterMap_cons_none hrecord]
          exact ih.cons user
      | some record =>
          rw [List.filterMap_cons_some hrecord, List.map_cons, user_of_recordOf? hrecord]
          exact ih.cons_cons user

theorem finds_collect (ht : t.Proper) (hnames : t.list s.directory = .ok names) :
    s.Finds t ⟨(s.usersAmong names).filterMap (s.recordOf? t)⟩ := by
  refine ⟨(usersAmong_ascending (ht.nodup_list hnames)).sublist (map_user_filterMap _), ?_⟩
  intro record
  rw [List.mem_filterMap]
  constructor
  · rintro ⟨user, huser, hrecord⟩
    obtain rfl := user_of_recordOf? hrecord
    exact ⟨⟨_, users_eq_usersAmong hnames, huser⟩, recordOf?_eq_some_iff.1 hrecord⟩
  · rintro ⟨⟨users, husers, hmem⟩, hrecord⟩
    obtain rfl := Except.ok.inj ((users_eq_usersAmong hnames).symm.trans husers)
    exact ⟨record.user, hmem, recordOf?_eq_some_iff.2 hrecord⟩

/-- A selected user whose file yields a record is found. -/
theorem Finds.mem {w : MetricsWindow} (h : s.Finds t w) (hnames : t.list s.directory = .ok names)
    {record : UserRecord} (hfile : HasFile names record.user)
    (hlong : s.minUserIdLength ≤ record.user.utf8ByteSize)
    (hread : s.readUser t record.user = .ok (some record)) : record ∈ w.users :=
  (h.mem_iff record).2
    ⟨⟨_, users_eq_usersAmong hnames, mem_usersAmong_iff.2 ⟨hfile, hlong⟩⟩, hread⟩

/-- Leaving out a user's record is not asking for that user. -/
theorem filter_user_filterMap (user : String) (users : List String) :
    (users.filterMap (s.recordOf? t)).filter (·.user ≠ user)
      = (users.filter (· ≠ user)).filterMap (s.recordOf? t) := by
  rw [List.filter_filterMap, List.filterMap_filter]
  refine List.filterMap_congr fun other _ => ?_
  cases hrecord : s.recordOf? t other with
  | none => simp
  | some record => simp [Option.filter, user_of_recordOf? hrecord]

/-! ### Two directories that differ in one user's file -/

/-- The two directories have the same entries but for the file of the user. -/
def AlikeBut (user : String) (t t' : FileTree) (home home' : Location) : Prop :=
  ∀ name, name ≠ .text (user ++ fileSuffix) → t'.node? (home' ++ [name]) = t.node? (home ++ [name])

/-- What lies behind the file name of anybody else is the same. -/
theorem AlikeBut.file (h : AlikeBut user t t' home home') {other : String} (hother : other ≠ user) :
    t'.node? (home' ++ [.text (other ++ fileSuffix)])
      = t.node? (home ++ [.text (other ++ fileSuffix)]) := by
  refine h _ fun heq => hother ?_
  exact String.append_left_inj _ |>.1 (FileName.text.inj heq)

/-- What is put in the place of the user's file leaves the rest of the directory alone. -/
theorem alikeBut_put (user : String) (t : FileTree) (home : Location) (n : FileNode) :
    AlikeBut user t (t.put (home ++ [.text (user ++ fileSuffix)]) n) home home :=
  fun _ hname => FileTree.node?_put_ne (by simpa using hname) n

theorem AlikeBut.readUser (h : AlikeBut user t t' home home')
    (hhome : t.locateDirectory s.directory = .ok home)
    (hhome' : t'.locateDirectory s.directory = .ok home') {other : String} (hother : other ≠ user)
    (hname : Path.IsName (other ++ fileSuffix)) : s.readUser t' other = s.readUser t other := by
  have hread : t'.readText (s.userPath other) = t.readText (s.userPath other) :=
    FileTree.readText_join_congr hname hhome hhome' (h.file hother)
  unfold TelemetrySettings.readUser
  rw [hread]

theorem AlikeBut.hasFile_iff (h : AlikeBut user t t' home home')
    (hhome : t.locateDirectory s.directory = .ok home)
    (hhome' : t'.locateDirectory s.directory = .ok home') (hnames : t.list s.directory = .ok names)
    (hnames' : t'.list s.directory = .ok names') {other : String} (hother : other ≠ user) :
    HasFile names' other ↔ HasFile names other := by
  rw [HasFile, HasFile, FileTree.mem_list_iff hhome hnames, FileTree.mem_list_iff hhome' hnames',
    h.file hother]

/-- **A user's file has no part in what is found of the others**, whether it is there or not and
whatever is in it, and in whichever order the directory lists its names. -/
theorem collect_isolated (ht : t.Proper) (ht' : t'.Proper)
    (hhome : t.locateDirectory s.directory = .ok home)
    (hhome' : t'.locateDirectory s.directory = .ok home') (h : AlikeBut user t t' home home') :
    ∃ w w', s.collect t = .ok w ∧ s.collect t' = .ok w' ∧
      w'.users.filter (·.user ≠ user) = w.users.filter (·.user ≠ user) ∧
      s.Finds t w ∧ s.Finds t' w' := by
  obtain ⟨names, hnames⟩ := FileTree.exists_list hhome
  obtain ⟨names', hnames'⟩ := FileTree.exists_list hhome'
  refine ⟨_, _, collect_eq hnames, collect_eq hnames', ?_, finds_collect ht hnames,
    finds_collect ht' hnames'⟩
  have husers : (s.usersAmong names').filter (· ≠ user) = (s.usersAmong names).filter (· ≠ user) :=
    usersAmong_filter_eq (ht.nodup_list hnames) (ht'.nodup_list hnames') fun other hother =>
      h.hasFile_iff hhome hhome' hnames hnames' (by simpa using hother)
  -- What is left is the records of the others, who are the same users and are read alike.
  rw [filter_user_filterMap, filter_user_filterMap, husers]
  refine List.filterMap_congr fun other hmem => ?_
  obtain ⟨hlisted, hother⟩ := List.mem_filter.1 hmem
  have hfile := (mem_usersAmong_iff.1 hlisted).1.1
  have hname : Path.IsName (other ++ fileSuffix) := ht.isProper_of_mem_list hnames hfile
  unfold recordOf?
  rw [h.readUser hhome hhome' (by simpa using hother) hname]

/-- The file of `b` is no text at first and a table of another slice then; `a` is found both times,
and `b` once there is something to read. -/
theorem collect_isolated_of_mended_file :
    let s : TelemetrySettings := ⟨⟨"m"⟩, 1, 2, 1⟩
    let home : Location := [.text "m"]
    let t : FileTree := ⟨[(home, .directory),
      (home ++ [.text "b_metrics.csv"], .file (.bytes [255]) 0o644),
      (home ++ [.text "a_metrics.csv"], .file (.text "slice_id,load\n0,5\n") 0o644)], []⟩
    let t' := t.put (home ++ [.text ("b" ++ fileSuffix)])
      (.file (.text "slice_id,load\n1,9\n") 0o644)
    let a : UserRecord := ⟨"a", 0, .ofList [("load", [5.0])]⟩
    let b : UserRecord := ⟨"b", 1, .ofList [("load", [9.0])]⟩
    t.Proper ∧ t'.Proper ∧ s.readUser t "b" = .error (.unreadable .notText) ∧
      s.readUser t' "b" = .ok (some b) ∧
      ∃ w w', s.collect t = .ok w ∧ s.collect t' = .ok w' ∧
        w'.users.filter (·.user ≠ "b") = w.users.filter (·.user ≠ "b") ∧ s.Finds t w ∧
        s.Finds t' w' ∧ a ∈ w.users ∧ a ∈ w'.users ∧ b ∈ w'.users := by
  intro s home t t' a b
  have hproper : t.Proper := by decide +kernel
  have hproper' : t'.Proper := by decide +kernel
  have hhome : t.locateDirectory s.directory = .ok home := by decide +kernel
  have hhome' : t'.locateDirectory s.directory = .ok home := by decide +kernel
  have hnames : t.list s.directory = .ok [.text "b_metrics.csv", .text "a_metrics.csv"] := by
    decide +kernel
  have hnames' : t'.list s.directory = .ok [.text "b_metrics.csv", .text "a_metrics.csv"] := by
    decide +kernel
  have hread : s.readUser t' "b" = .ok (some b) := by decide +kernel
  obtain ⟨w, w', hcollect, hcollect', hothers, hfinds, hfinds'⟩ :=
    collect_isolated hproper hproper' hhome hhome' (alikeBut_put "b" t home _)
  exact ⟨hproper, hproper', by decide +kernel, hread, w, w', hcollect, hcollect', hothers, hfinds,
    hfinds', hfinds.mem hnames (by decide) (by decide +kernel) (by decide +kernel),
    hfinds'.mem hnames' (by decide) (by decide +kernel) (by decide +kernel),
    hfinds'.mem hnames' (by decide) (by decide +kernel) hread⟩

end TelemetrySettings

end RanSlicing
