/-
The grammar of the policy record.

A line is silent, or it is the record of one slice: the numeral of the slice and the numeral of a
policy's code, on the two sides of the first `::`, with blanks wherever one likes.  What reading a
line answers is this grammar (`readLine_eq_none_iff`, `readLine_eq_some_iff`), so a record is read
exactly if each of its lines follows it (`grammatical_readPolicies`).  Lines are taken in order: the
last record of a slice is the one that counts, and the first line that breaks the grammar is the
one that is reported.
-/
import RanSlicing.Proofs.Store.Files

namespace RanSlicing.PolicyRecord

open Number (wordMax natText readNat readWord IsNumeral)

/-- A line that says nothing: it is blank, or a remark. -/
def Silent (line : List Char) : Prop :=
  Text.trim line = [] ∨ (Text.trim line).head? = some '#'

/-- A record of a slice: its number and the code of its policy are on the two sides of the first
`::`. -/
def Records (line : List Char) (slice : Nat) (policy : Policy) : Prop :=
  ∃ before after, Text.CutsAt [':', ':'] (Text.trim line) before after ∧
    IsNumeral (Text.trim before) slice ∧ slice ≤ wordMax ∧
    IsNumeral (Text.trim after) policy.code

/-- A line that follows the grammar. -/
def WellFormed (line : List Char) : Prop :=
  Silent line ∨ ∃ slice policy, Records line slice policy

/-- The last record of the slice is one of the policy. -/
def LastRecord (ls : List (List Char)) (slice : Nat) (policy : Policy) : Prop :=
  ∃ before line after, ls = before ++ line :: after ∧ Records line slice policy ∧
    ∀ later ∈ after, ∀ other, ¬Records later slice other

/-! ### Reading a line -/

theorem ofCode?_eq_ok_iff {code : Nat} {policy : Policy} :
    Policy.ofCode? code = .ok policy ↔ code = policy.code := by
  constructor
  · intro h
    unfold Policy.ofCode? at h
    split at h <;> cases h <;> rfl
  · rintro rfl
    exact ofCode?_code policy

/-- What stands around the first `::` of a line that is not silent is read as two numerals. -/
theorem readLine_of_cutsAt {line before after : List Char} (hspoken : ¬Silent line)
    (hcut : Text.CutsAt [':', ':'] (Text.trim line) before after) {slice : Nat} {policy : Policy} :
    readLine line = .ok (some (slice, policy)) ↔
      IsNumeral (Text.trim before) slice ∧ slice ≤ wordMax ∧
        IsNumeral (Text.trim after) policy.code := by
  unfold Silent at hspoken
  rw [readLine, if_neg hspoken, (Text.splitOnce_eq_some_iff (by simp)).2 hcut]
  simp only [bind_eq_ok_iff, mapError_eq_ok_iff, readWord, Number.readNat_eq_ok_iff,
    ofCode?_eq_ok_iff]
  constructor
  · rintro ⟨slice', ⟨hslice, hword⟩, code, ⟨hcode, -⟩, policy', hpolicy, heq⟩
    cases heq
    exact ⟨hslice, hword, hpolicy ▸ hcode⟩
  · rintro ⟨hslice, hword, hcode⟩
    exact ⟨slice, ⟨hslice, hword⟩, policy.code, ⟨hcode, code_le policy⟩, policy, rfl, rfl⟩

/-- A numeral does not begin with the sign of a remark. -/
theorem head?_ne_of_isNumeral {cs : List Char} {n : Nat} (h : IsNumeral cs n) :
    cs.head? ≠ some '#' := by
  rcases h with h | ⟨digits, rfl, -⟩
  · intro hhead
    exact absurd (h.digits '#' (List.mem_of_head? hhead)) (by decide)
  · simp

theorem Records.not_silent {line : List Char} {slice : Nat} {policy : Policy}
    (h : Records line slice policy) : ¬Silent line := by
  obtain ⟨before, after, ⟨hparts, -⟩, hslice, -⟩ := h
  rintro (hnil | hhead)
  · rw [hnil] at hparts
    simp at hparts
  · rw [hparts] at hhead
    cases before with
    | nil => simp at hhead
    | cons c rest =>
        -- The remark would begin the number of the slice, from which no sign is trimmed.
        obtain rfl : c = '#' := by simpa using hhead
        exact head?_ne_of_isNumeral hslice (Text.head?_trim_cons (by decide))

theorem readLine_eq_none_iff {line : List Char} : readLine line = .ok none ↔ Silent line := by
  refine ⟨fun h => ?_, fun h => by rw [readLine, if_pos (by exact h)]⟩
  by_contra hspoken
  unfold Silent at hspoken
  rw [readLine, if_neg hspoken] at h
  split at h
  · simp at h
  · simp only [bind_eq_ok_iff] at h
    obtain ⟨slice, -, code, -, policy, -, h⟩ := h
    cases h

/-- **A line is read as the record that it is.** -/
theorem readLine_eq_some_iff {line : List Char} {slice : Nat} {policy : Policy} :
    readLine line = .ok (some (slice, policy)) ↔ Records line slice policy := by
  by_cases hsilent : Silent line
  · rw [readLine_eq_none_iff.2 hsilent]
    exact iff_of_false (by simp) fun h => h.not_silent hsilent
  · constructor
    · intro h
      cases hcut : Text.splitOnce [':', ':'] (Text.trim line) with
      | none =>
          have hspoken : ¬(Text.trim line = [] ∨ (Text.trim line).head? = some '#') := hsilent
          simp [readLine, if_neg hspoken, hcut] at h
      | some parts =>
          have hparts := (Text.splitOnce_eq_some_iff (by simp)).1 hcut
          exact ⟨parts.1, parts.2, hparts, (readLine_of_cutsAt hsilent hparts).1 h⟩
    · rintro ⟨before, after, hparts, hread⟩
      exact (readLine_of_cutsAt hsilent hparts).2 hread

theorem exists_readLine_iff {line : List Char} :
    (∃ said, readLine line = .ok said) ↔ WellFormed line := by
  constructor
  · rintro ⟨_ | ⟨slice, policy⟩, hsaid⟩
    · exact .inl (readLine_eq_none_iff.1 hsaid)
    · exact .inr ⟨slice, policy, readLine_eq_some_iff.1 hsaid⟩
  · rintro (hsilent | ⟨slice, policy, hrecords⟩)
    · exact ⟨_, readLine_eq_none_iff.2 hsilent⟩
    · exact ⟨_, readLine_eq_some_iff.2 hrecords⟩

theorem legible_iff {ls : List (List Char)} : Legible ls ↔ ∀ line ∈ ls, WellFormed line :=
  forall₂_congr fun _ _ => exists_readLine_iff

/-! ### The last record of a slice -/

theorem lineWord_eq_some_iff {slice : Nat} {line : List Char} {policy : Policy} :
    lineWord slice line = some policy ↔ Records line slice policy := by
  rw [← readLine_eq_some_iff, lineWord]
  split
  · rename_i named said hsaid
    rw [hsaid]
    by_cases hnamed : named = slice
    · simp [hnamed]
    · simp [hnamed]
  · rename_i hsilent
    exact iff_of_false (by simp) (hsilent slice policy)

theorem lineWord_eq_none_iff {slice : Nat} {line : List Char} :
    lineWord slice line = none ↔ ∀ policy, ¬Records line slice policy := by
  rw [Option.eq_none_iff_forall_ne_some]
  exact forall_congr' fun policy => not_congr lineWord_eq_some_iff

theorem lastWord_eq_none_iff {slice : Nat} {ls : List (List Char)} :
    lastWord slice ls = none ↔ ∀ line ∈ ls, ∀ policy, ¬Records line slice policy := by
  induction ls with
  | nil => simp [lastWord]
  | cons line rest ih =>
      rw [lastWord, Option.or_eq_none_iff, ih, lineWord_eq_none_iff, List.forall_mem_cons,
        and_comm]

theorem lastWord_eq_some_iff {slice : Nat} {policy : Policy} {ls : List (List Char)} :
    lastWord slice ls = some policy ↔ LastRecord ls slice policy := by
  induction ls with
  | nil =>
      refine iff_of_false (by simp [lastWord]) ?_
      rintro ⟨before, line, after, hls, -⟩
      simp at hls
  | cons line rest ih =>
      rw [lastWord, Option.or_eq_some_iff, ih, lastWord_eq_none_iff, lineWord_eq_some_iff]
      constructor
      · rintro (⟨before, last, after, rfl, hlast, hafter⟩ | ⟨hrest, hline⟩)
        · exact ⟨line :: before, last, after, rfl, hlast, hafter⟩
        · exact ⟨[], line, rest, rfl, hline, hrest⟩
      · rintro ⟨before, last, after, hls, hlast, hafter⟩
        cases before with
        | nil =>
            obtain ⟨rfl, rfl⟩ := List.cons.inj hls
            exact .inr ⟨hafter, hlast⟩
        | cons first others =>
            obtain ⟨rfl, rfl⟩ := List.cons.inj hls
            exact .inl ⟨others, last, after, rfl, hlast, hafter⟩

/-! ### The first line that breaks the grammar -/

/-- Lines are counted from the first one, and the first that cannot be read is reported. -/
theorem readLines_eq_error (path : Path) {line : List Char} {e : Fault}
    (hline : readLine line = .error e) (after : List (List Char)) :
    ∀ {before : List (List Char)}, Legible before → ∀ (number : Nat) (table : PolicyTable),
      readLines path number table (before ++ line :: after)
        = .error (.policyRecord path (number + before.length) e) := by
  intro before
  induction before with
  | nil =>
      intro _ number table
      simp only [List.nil_append, readLines, hline]
      rfl
  | cons first rest ih =>
      intro h number table
      obtain ⟨⟨said, hsaid⟩, hrest⟩ := List.forall_mem_cons.1 h
      have hnumber : number + (first :: rest).length = number + 1 + rest.length := by
        rw [List.length_cons]
        omega
      rw [hnumber]
      simp only [List.cons_append, readLines, hsaid]
      cases said with
      | none => exact ih hrest _ _
      | some entry => exact ih hrest _ _

/-- Where not every line follows the grammar there is a first one that does not. -/
theorem exists_first_broken {ls : List (List Char)} (h : ¬∀ line ∈ ls, WellFormed line) :
    ∃ before line after, ls = before ++ line :: after ∧ (∀ l ∈ before, WellFormed l) ∧
      ¬WellFormed line := by
  induction ls with
  | nil => simp at h
  | cons line rest ih =>
      by_cases hline : WellFormed line
      · obtain ⟨before, broken, after, rfl, hbefore, hbroken⟩ :=
          ih fun hrest => h (List.forall_mem_cons.2 ⟨hline, hrest⟩)
        exact ⟨line :: before, broken, after, rfl, List.forall_mem_cons.2 ⟨hline, hbefore⟩, hbroken⟩
      · exact ⟨[], line, rest, rfl, by simp, hline⟩

/-- The report says which record it is about, in which line, and what is wrong there. -/
theorem message_policyRecord (path : Path) (number : Nat) (cause : Fault) :
    (Fault.policyRecord path number cause).message
      = "Invalid policy: " ++ (path.text ++ ":" ++ natText number ++ ": " ++ cause.message) := by
  show "Invalid policy: " ++ (path.text ++ ":" ++ natText number ++ ": " ++ cause.kind.heading
    ++ cause.reason) = _
  exact congrArg ("Invalid policy: " ++ ·) String.append_assoc

theorem read_eq_error (path : Path) (tenants : Nat) {record : String}
    {before after : List (List Char)} {line : List Char}
    (hlines : Text.lines record.toList = before ++ line :: after)
    (hbefore : ∀ l ∈ before, WellFormed l) (hline : ¬WellFormed line) :
    ∃ e, read path tenants record = .error (.policyRecord path (before.length + 1) e) := by
  cases hsaid : readLine line with
  | ok said => exact absurd (exists_readLine_iff.1 ⟨said, hsaid⟩) hline
  | error e =>
      refine ⟨e, ?_⟩
      rw [read, hlines, readLines_eq_error path hsaid after (legible_iff.2 hbefore), Nat.add_comm]
      rfl

end RanSlicing.PolicyRecord

namespace RanSlicing.FileStore

open PolicyRecord
open Number (natText)

/-- What reading the policies makes of the lines on record. -/
structure Grammatical (s : FileStore) (ls : List (List Char)) : Prop where
  /-- The policies are read exactly if each line follows the grammar. -/
  accepted : (∃ table, s.readPolicies = .ok table) ↔ ∀ line ∈ ls, WellFormed line
  /-- A slice has the policy of its last record, or round-robin if it has no record and is one of
  the cell's; no other slice has any. -/
  policies : ∀ table, s.readPolicies = .ok table → ∀ slice policy,
    table.get? slice = some policy ↔ LastRecord ls slice policy ∨
      (∀ line ∈ ls, ∀ other, ¬Records line slice other) ∧ slice < s.tenants ∧
        policy = .roundRobin
  /-- Of lines that break the grammar the first is reported, by its number. -/
  refused : (¬∀ line ∈ ls, WellFormed line) → ∃ before line after fault cause,
    ls = before ++ line :: after ∧ (∀ l ∈ before, WellFormed l) ∧ ¬WellFormed line ∧
      s.readPolicies = .error fault ∧ fault.kind = .invalidPolicy ∧
      fault.message = "Invalid policy: " ++ (s.layout.policyPath.text ++ ":" ++
        natText (before.length + 1) ++ ": " ++ Fault.message cause)

/-- **The policies are read by the grammar of their record.**  A record that is missing counts as
an empty one. -/
theorem grammatical_readPolicies {s : FileStore} {record : Option String}
    (h : s.readRecord s.layout.policyPath = .ok record) :
    s.Grammatical (Text.lines (record.getD "").toList) := by
  have hread : s.readPolicies = read s.layout.policyPath s.tenants (record.getD "") := by
    rw [readPolicies]
    simp only [h, bind, Except.bind]
    cases record with
    | none => exact (read_empty _ _).symm
    | some text => rfl
  refine ⟨⟨fun hsome => ?_, fun hall => ?_⟩, fun table htable slice policy => ?_,
    fun hbroken => ?_⟩
  · obtain ⟨table, htable⟩ := hsome
    rw [hread] at htable
    exact legible_iff.1 (get?_of_read htable).1
  · rw [hread]
    exact exists_read _ _ (legible_iff.2 hall)
  · rw [hread] at htable
    rw [(get?_of_read htable).2, Option.or_eq_some_iff, lastWord_eq_some_iff, lastWord_eq_none_iff]
    simp [eq_comm]
  · obtain ⟨before, line, after, hlines, hbefore, hline⟩ := exists_first_broken hbroken
    obtain ⟨e, he⟩ := read_eq_error s.layout.policyPath s.tenants hlines hbefore hline
    exact ⟨before, line, after, _, e, hlines, hbefore, hline, hread.trans he, rfl,
      message_policyRecord _ _ e⟩

/-- A remark, a record with a sign and blanks in it, and in the third line a record that lacks one
of its colons. -/
theorem grammatical_readPolicies_of_lost_colon :
    let record := "# ours\n +1 :: 2\r\n7:1\n0::x"
    let tree := (FileTree.empty.put [.text "r"] .directory).put [.text "r", .text "p.txt"]
      (.file (.text record) 0o644)
    let s : FileStore := ⟨⟨⟨"/r"⟩, "m_", "p.txt", false⟩, ⟨4, 4⟩, 2, tree, {}⟩
    s.readRecord s.layout.policyPath = .ok (some record) ∧
      s.readPolicies = .error (.policyRecord ⟨"/r/p.txt"⟩ 3 (.policyLine "7:1")) ∧
      s.Grammatical (Text.lines record.toList) := by
  intro record tree s
  have hrecord : s.readRecord s.layout.policyPath = .ok (some record) := by decide +kernel
  exact ⟨hrecord, by decide +kernel, grammatical_readPolicies hrecord⟩

end RanSlicing.FileStore
