/-
Bringing the policy record up to date changes no more of it than it must.

The record is kept by several hands, so what it looks like matters beside what it says.  `Revised`
tells line by line what becomes of it: a line stays as it is unless it is the record of a slice that
the table has, and of those the first takes the new policy in its place and the others go.  Slices
without a record get one at the end, in their order (`revised_updateLines`).  The lines that were
written are read as what they were written for, so doing the same again finds every record where it
should be (`updateLines_again`).
-/
import RanSlicing.Proofs.Store.PolicyGrammar

namespace RanSlicing.PolicyRecord

open Number (wordMax)

/-- A record of the slice, whatever its policy is. -/
def RecordsSlice (text : List Char) (slice : Nat) : Prop := ∃ policy, Records text slice policy

/-- What becomes of the lines `old` that stand below the lines `earlier` when the record is brought
up to date with a table. -/
inductive Revised (table : PolicyTable) : (earlier old new : List (List Char)) → Prop
  | nil (earlier : List (List Char)) : Revised table earlier [] []
  /-- Blank lines and remarks stay, and so do lines that break the grammar. -/
  | mute {earlier old new : List (List Char)} {text : List Char}
      (hmute : Silent text ∨ ¬WellFormed text) (hrest : Revised table (earlier ++ [text]) old new) :
      Revised table earlier (text :: old) (text :: new)
  /-- A record of a slice that the table does not have stays. -/
  | foreign {earlier old new : List (List Char)} {text : List Char} {slice : Nat}
      (hslice : RecordsSlice text slice) (htable : table.get? slice = none)
      (hrest : Revised table (earlier ++ [text]) old new) :
      Revised table earlier (text :: old) (text :: new)
  /-- The first record of a slice in the table takes its new policy. -/
  | first {earlier old new : List (List Char)} {text : List Char} {slice : Nat} {policy : Policy}
      (hslice : RecordsSlice text slice) (htable : table.get? slice = some policy)
      (hfirst : ∀ above ∈ earlier, ¬RecordsSlice above slice)
      (hrest : Revised table (earlier ++ [text]) old new) :
      Revised table earlier (text :: old) (line slice policy :: new)
  /-- A later record of such a slice goes. -/
  | later {earlier old new : List (List Char)} {text above : List Char} {slice : Nat}
      {policy : Policy} (hslice : RecordsSlice text slice) (htable : table.get? slice = some policy)
      (habove : above ∈ earlier) (hlater : RecordsSlice above slice)
      (hrest : Revised table (earlier ++ [text]) old new) : Revised table earlier (text :: old) new

/-- The slices of the table, in order, of which no line is a record, with their policies. -/
structure Missing (table : PolicyTable) (ls : List (List Char)) (missing : List (Nat × Policy)) :
    Prop where
  ascending : missing.Pairwise fun a b => a.1 < b.1
  mem_iff : ∀ slice policy, (slice, policy) ∈ missing ↔
    table.get? slice = some policy ∧ ∀ text ∈ ls, ¬RecordsSlice text slice

theorem recordsSlice_iff {text : List Char} {named : Nat} {policy : Policy}
    (h : readLine text = .ok (some (named, policy))) {slice : Nat} :
    RecordsSlice text slice ↔ slice = named := by
  simp only [RecordsSlice, ← readLine_eq_some_iff, h]
  constructor
  · rintro ⟨other, heq⟩
    cases heq
    rfl
  · rintro rfl
    exact ⟨policy, rfl⟩

theorem not_recordsSlice_iff {text : List Char} {slice : Nat} :
    ¬RecordsSlice text slice ↔ lineWord slice text = none := by
  rw [lineWord_eq_none_iff, RecordsSlice, not_exists]

/-! ### One line after the other -/

/-- The slices in `written` are those of the table that have a record among the lines `earlier`. -/
def Noted (table : PolicyTable) (earlier : List (List Char)) (written : List Nat) : Prop :=
  ∀ slice, (table.get? slice).isSome →
    (slice ∈ written ↔ ∃ above ∈ earlier, RecordsSlice above slice)

theorem Noted.append {table : PolicyTable} {earlier : List (List Char)} {written written' : List Nat}
    (h : Noted table earlier written) {text : List Char}
    (hnew : ∀ slice, (table.get? slice).isSome →
      (slice ∈ written' ↔ slice ∈ written ∨ RecordsSlice text slice)) :
    Noted table (earlier ++ [text]) written' := by
  intro slice hslice
  rw [hnew slice hslice, h slice hslice]
  simp only [List.mem_append, List.mem_singleton, or_and_right, exists_or, exists_eq_left]

/-- Slices are missing if the table has them and no line is a record of theirs. -/
theorem missing_filter {table : PolicyTable} {earlier : List (List Char)} {written : List Nat}
    (h : Noted table earlier written) :
    Missing table earlier (table.entries.filter fun e => !written.contains e.1) := by
  refine ⟨(table.ascending.imp Nat.compare_eq_lt.1).filter _, fun slice policy => ?_⟩
  rw [List.mem_filter, SortedMap.mem_entries_iff]
  refine and_congr_right fun hget => ?_
  have hnoted := h slice (by rw [hget]; rfl)
  simp [hnoted]

/-- **Lines are brought up to date as is told**, and what is missing follows. -/
theorem revised_updateLines (table : PolicyTable) (old : List (List Char)) :
    ∀ {earlier : List (List Char)} {written : List Nat}, Noted table earlier written →
      ∃ new missing, updateLines table written old = new ++ missing.map (fun e => line e.1 e.2) ∧
        Revised table earlier old new ∧ Missing table (earlier ++ old) missing := by
  induction old with
  | nil =>
      intro earlier written h
      refine ⟨[], _, rfl, .nil earlier, ?_⟩
      rw [List.append_nil]
      exact missing_filter h
  | cons text rest ih =>
      intro earlier written h
      have happend : earlier ++ text :: rest = earlier ++ [text] ++ rest := by simp
      rw [happend]
      rcases updateLines_cons table written text rest with
        ⟨named, said, policy, hsaid, htable, ⟨hmem, hgone⟩ | ⟨hmem, htaken⟩⟩ | ⟨hkept, hsilent⟩
      · -- A later record: its slice is noted already.
        have hnoted : Noted table (earlier ++ [text]) written := by
          refine h.append fun slice _ => ?_
          rw [recordsSlice_iff hsaid]
          exact (or_iff_left_of_imp fun heq => heq ▸ hmem).symm
        obtain ⟨new, missing, hnew, hrevised, hmissing⟩ := ih hnoted
        obtain ⟨above, habove, hlater⟩ := (h named (by rw [htable]; rfl)).1 hmem
        exact ⟨new, missing, hgone.trans hnew,
          .later ((recordsSlice_iff hsaid).2 rfl) htable habove hlater hrevised, hmissing⟩
      · -- The first record: its slice is noted from here on.
        have hnoted : Noted table (earlier ++ [text]) (named :: written) := by
          refine h.append fun slice _ => ?_
          rw [recordsSlice_iff hsaid, List.mem_cons, or_comm]
        obtain ⟨new, missing, hnew, hrevised, hmissing⟩ := ih hnoted
        refine ⟨line named policy :: new, missing, by rw [htaken, hnew]; rfl,
          .first ((recordsSlice_iff hsaid).2 rfl) htable (fun above habove hslice => ?_) hrevised,
          hmissing⟩
        exact hmem ((h named (by rw [htable]; rfl)).2 ⟨above, habove, hslice⟩)
      · -- Any other line is no record of a slice in the table.
        have hnoted : Noted table (earlier ++ [text]) written := by
          refine h.append fun slice hslice => ?_
          obtain ⟨policy, hpolicy⟩ := Option.isSome_iff_exists.1 hslice
          exact (or_iff_left (not_recordsSlice_iff.2 (hsilent slice policy hpolicy))).symm
        obtain ⟨new, missing, hnew, hrevised, hmissing⟩ := ih hnoted
        refine ⟨text :: new, missing, by rw [hkept, hnew]; rfl, ?_, hmissing⟩
        by_cases hformed : WellFormed text
        · rcases hformed with hquiet | ⟨slice, said, hrecords⟩
          · exact .mute (.inl hquiet) hrevised
          · refine .foreign ⟨said, hrecords⟩ (Option.eq_none_iff_forall_ne_some.2 ?_) hrevised
            intro policy hpolicy
            exact not_recordsSlice_iff.2 (hsilent slice policy hpolicy) ⟨said, hrecords⟩
        · exact .mute (.inr hformed) hrevised

/-! ### Doing the same again -/

theorem updateLines_cons_first {table : PolicyTable} {written : List Nat} {old : List Char}
    {slice : Nat} {said policy : Policy} (hsaid : readLine old = .ok (some (slice, said)))
    (htable : table.get? slice = some policy) (hwritten : slice ∉ written)
    (rest : List (List Char)) :
    updateLines table written (old :: rest)
      = line slice policy :: updateLines table (slice :: written) rest := by
  rw [updateLines, hsaid]
  simp only [htable]
  rw [if_neg (by simpa using hwritten)]

theorem updateLines_cons_kept {table : PolicyTable} {written : List Nat} {old : List Char}
    (h : ∀ slice policy, table.get? slice = some policy → lineWord slice old = none)
    (rest : List (List Char)) :
    updateLines table written (old :: rest) = old :: updateLines table written rest := by
  rcases updateLines_cons table written old rest with
    ⟨named, said, policy, hsaid, htable, -⟩ | ⟨hkept, -⟩
  · have hword := h named policy htable
    rw [lineWord_of_readLine hsaid, if_pos rfl] at hword
    cases hword
  · exact hkept

/-- The lines of the slices that are missing are in place once they are written. -/
theorem updateLines_missing {table : PolicyTable} (hwords : ∀ slice ∈ table.keys, slice ≤ wordMax) :
    ∀ {missing : List (Nat × Policy)} {written : List Nat},
      missing.Pairwise (fun a b => a.1 < b.1) →
      (∀ slice policy, (slice, policy) ∈ missing ↔
        table.get? slice = some policy ∧ slice ∉ written) →
      updateLines table written (missing.map fun e => line e.1 e.2)
        = missing.map fun e => line e.1 e.2 := by
  intro missing
  induction missing with
  | nil =>
      intro written _ hmissing
      rw [List.map_nil, updateLines, List.map_eq_nil_iff, List.filter_eq_nil_iff]
      intro e he hcontains
      refine List.not_mem_nil ((hmissing e.1 e.2).2 ⟨SortedMap.mem_entries_iff.1 he, ?_⟩)
      simpa using hcontains
  | cons e rest ih =>
      intro written hascending hmissing
      obtain ⟨hlow, hrest⟩ := List.pairwise_cons.1 hascending
      obtain ⟨htable, hwritten⟩ := (hmissing e.1 e.2).1 List.mem_cons_self
      have hword : e.1 ≤ wordMax := hwords e.1 (SortedMap.mem_keys_iff.2 ⟨_, htable⟩)
      rw [List.map_cons, updateLines_cons_first (readLine_line e.2 hword) htable hwritten, ih hrest]
      intro slice policy
      rw [List.mem_cons, not_or, ← and_assoc, and_right_comm, ← hmissing, List.mem_cons]
      constructor
      · intro hmem
        exact ⟨.inr hmem, (Nat.ne_of_lt (hlow _ hmem)).symm⟩
      · rintro ⟨heq | hmem, hne⟩
        · exact absurd (congrArg Prod.fst heq) hne
        · exact hmem

/-- The carriage return that a line may lose on the way through a text is no part of what it says. -/
theorem lineWord_closeLine (slice : Nat) (text : List Char) :
    lineWord slice (Text.closeLine text.reverse) = lineWord slice text := by
  rw [lineWord, lineWord, readLine_closeLine]

theorem closeLine_line (slice : Nat) (policy : Policy) :
    Text.closeLine (line slice policy).reverse = line slice policy := by
  refine Text.closeLine_reverse fun hmem => ?_
  exact absurd (not_isBlank_of_mem_line hmem) (by decide)

/-- **Lines that are up to date stay as they are**, but for the blanks around them. -/
theorem updateLines_again {table : PolicyTable} (hwords : ∀ slice ∈ table.keys, slice ≤ wordMax)
    (old : List (List Char)) : ∀ written : List Nat,
      (updateLines table written ((updateLines table written old).map
          fun text => Text.closeLine text.reverse)).map Text.trim
        = (updateLines table written old).map Text.trim := by
  induction old with
  | nil =>
      intro written
      have hascending := (table.ascending.imp Nat.compare_eq_lt.1).filter
        fun e => !written.contains e.1
      rw [updateLines, List.map_map]
      have hclose : ((fun text => Text.closeLine text.reverse) ∘ fun e : Nat × Policy =>
          line e.1 e.2) = fun e => line e.1 e.2 :=
        funext fun e => closeLine_line e.1 e.2
      rw [hclose, updateLines_missing hwords hascending]
      intro slice policy
      rw [List.mem_filter, SortedMap.mem_entries_iff]
      simp
  | cons text rest ih =>
      intro written
      rcases updateLines_cons table written text rest with
        ⟨named, said, policy, hsaid, htable, ⟨-, hgone⟩ | ⟨hmem, htaken⟩⟩ | ⟨hkept, hsilent⟩
      · rw [hgone]
        exact ih written
      · have hword : named ≤ wordMax := hwords named (SortedMap.mem_keys_iff.2 ⟨_, htable⟩)
        rw [htaken, List.map_cons, closeLine_line,
          updateLines_cons_first (readLine_line policy hword) htable hmem, List.map_cons,
          List.map_cons, ih]
      · have hsilent' : ∀ slice policy, table.get? slice = some policy →
            lineWord slice (Text.closeLine text.reverse) = none := by
          intro slice policy hslice
          rw [lineWord_closeLine]
          exact hsilent slice policy hslice
        rw [hkept, List.map_cons, updateLines_cons_kept hsilent', List.map_cons, List.map_cons, ih,
          Text.trim_closeLine, List.reverse_reverse]

/-! ### The text of the record -/

/-- The text of a record is its lines, each of them ended. -/
theorem splitOn_update (record : String) (table : PolicyTable) :
    (update record table).toList.splitOn '\n'
      = updateLines table [] (Text.lines record.toList) ++ [[]] := by
  rw [update, String.toList_ofList]
  exact Text.splitOn_flatMap fun _ => newline_not_mem_updateLines

/-- What a record keeps of its layout when it is brought up to date with a table. -/
structure KeepsLayout (record : String) (table : PolicyTable) : Prop where
  /-- Its lines are revised, each in its place, and the records that are missing follow them. -/
  lines : ∃ new missing, (update record table).toList.splitOn '\n'
      = new ++ missing.map (fun e => line e.1 e.2) ++ [[]] ∧
    Revised table [] (Text.lines record.toList) new ∧
    Missing table (Text.lines record.toList) missing
  /-- Doing the same again leaves every line as it is, but for blanks around it. -/
  again : ((update (update record table) table).toList.splitOn '\n').map Text.trim
    = ((update record table).toList.splitOn '\n').map Text.trim

/-- **A record that is brought up to date keeps its layout**, whatever its text is. -/
theorem keepsLayout_update (record : String) {table : PolicyTable}
    (hwords : ∀ slice ∈ table.keys, slice ≤ wordMax) : KeepsLayout record table := by
  constructor
  · have hnoted : Noted table [] [] := fun slice _ => by simp
    obtain ⟨new, missing, hnew, hrevised, hmissing⟩ :=
      revised_updateLines table (Text.lines record.toList) hnoted
    exact ⟨new, missing, by rw [splitOn_update, hnew], hrevised, hmissing⟩
  · rw [splitOn_update, splitOn_update, lines_update, List.map_append, List.map_append,
      updateLines_again hwords]

/-- A remark, two spellings of slice 0, a blank line, a slice that the table does not have, and a
line that is no record; slice 2 has none yet. -/
theorem keepsLayout_update_of_odd_spellings :
    let record := "# ours\n00::1\r\n\n7::1\n+0 :: 2\n1:0"
    let table : PolicyTable := .ofList [(0, .proportional), (2, .roundRobin)]
    (∀ slice ∈ table.keys, slice ≤ wordMax) ∧
      update record table = "# ours\n0::2\n\n7::1\n1:0\n2::0\n" ∧ KeepsLayout record table := by
  intro record table
  have hwords : ∀ slice ∈ table.keys, slice ≤ wordMax := by decide +kernel
  exact ⟨hwords, by decide +kernel, keepsLayout_update record hwords⟩

end RanSlicing.PolicyRecord
