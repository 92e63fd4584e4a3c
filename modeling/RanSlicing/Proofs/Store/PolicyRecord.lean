/-
What the policy record says survives its update.

Reading goes by the last line of a slice, updating by the first: the first line takes the new
policy in place and later ones go, and a line that is not to be changed stays, whatever its
spelling.  Both are measured by one thing, the word of the last line that names a slice
(`lastWord`).  A record that can be read is read as what it says
(`get?_of_readLines`), and a record brought up to date with a table says what the table has and,
where the table has nothing, what it said before (`lastWord_updateLines`).
-/
import RanSlicing.Proofs.Except
import RanSlicing.Proofs.Number.Integer
import RanSlicing.Proofs.SortedMap
import RanSlicing.Proofs.Text.Lines
import RanSlicing.Store.PolicyRecord

namespace RanSlicing.PolicyRecord

open Number (wordMax natText readNat readWord)

/-- What a line says of a slice. -/
def lineWord (slice : Nat) (line : List Char) : Option Policy :=
  match readLine line with
  | .ok (some (named, policy)) => if named = slice then some policy else none
  | _ => none

/-- What lines say of a slice: the last one counts that says anything. -/
def lastWord (slice : Nat) : List (List Char) → Option Policy
  | [] => none
  | line :: rest => (lastWord slice rest).or (lineWord slice line)

/-- Every line can be read. -/
def Legible (ls : List (List Char)) : Prop := ∀ line ∈ ls, ∃ said, readLine line = .ok said

/-! ### A line -/

/-- The blanks around a line say nothing. -/
theorem readLine_congr {line line' : List Char} (h : Text.trim line' = Text.trim line) :
    readLine line' = readLine line := by
  rw [readLine, readLine, h]

theorem ofCode?_code (policy : Policy) : Policy.ofCode? policy.code = .ok policy := by
  cases policy <;> rfl

theorem code_le (policy : Policy) : policy.code ≤ 255 := by
  cases policy <;> decide

theorem mem_line {slice : Nat} {policy : Policy} {c : Char} (h : c ∈ line slice policy) :
    c.isDigit = true ∨ c = ':' := by
  simp only [line, List.mem_append, List.mem_cons, List.not_mem_nil, or_false] at h
  rcases h with (h | h) | h
  · exact .inl (Number.isDigit_of_mem_natText h)
  · exact .inr (h.elim id id)
  · exact .inl (Number.isDigit_of_mem_natText h)

theorem not_isBlank_of_mem_line {slice : Nat} {policy : Policy} {c : Char}
    (h : c ∈ line slice policy) : Text.isBlank c = false := by
  rcases mem_line h with hdigit | rfl
  · exact Text.not_isBlank_of_isDigit hdigit
  · decide

/-- **The line of a slice is read as what it was written for.** -/
theorem readLine_line {slice : Nat} (policy : Policy) (h : slice ≤ wordMax) :
    readLine (line slice policy) = .ok (some (slice, policy)) := by
  have htrim : Text.trim (line slice policy) = line slice policy :=
    Text.trim_of_forall_not_blank fun _ hc => not_isBlank_of_mem_line hc
  have hspoken : ¬(line slice policy = [] ∨ (line slice policy).head? = some '#') := by
    rintro (hnil | hhead)
    · simp [line] at hnil
    · rcases mem_line (List.mem_of_head? hhead) with hdigit | hcolon
      · exact absurd hdigit (by decide)
      · exact absurd hcolon (by decide)
  have hcolon : ':' ∉ (natText slice).toList := fun hmem =>
    absurd (Number.isDigit_of_mem_natText hmem) (by decide)
  have hcut : Text.splitOnce [':', ':'] (line slice policy)
      = some ((natText slice).toList, (natText policy.code).toList) :=
    Text.splitOnce_of_not_mem hcolon _
  rw [readLine, htrim, if_neg hspoken, hcut]
  simp only [Number.trim_natText, readWord, Number.readNat_natText h,
    Number.readNat_natText (code_le policy), Except.mapError, bind, Except.bind, ofCode?_code]

theorem newline_not_mem_line (slice : Nat) (policy : Policy) : '\n' ∉ line slice policy := by
  intro hmem
  rcases mem_line hmem with hdigit | hcolon
  · exact absurd hdigit (by decide)
  · exact absurd hcolon (by decide)

theorem lineWord_of_readLine {line : List Char} {named : Nat} {policy : Policy}
    (h : readLine line = .ok (some (named, policy))) (slice : Nat) :
    lineWord slice line = if named = slice then some policy else none := by
  rw [lineWord, h]

theorem lineWord_of_silent {line : List Char}
    (h : ∀ named policy, readLine line ≠ .ok (some (named, policy))) (slice : Nat) :
    lineWord slice line = none := by
  rw [lineWord]
  split
  · rename_i named policy hsaid
    exact absurd hsaid (h named policy)
  · rfl

/-- Only slices that fit a word are named. -/
theorem le_of_readLine {line : List Char} {named : Nat} {policy : Policy}
    (h : readLine line = .ok (some (named, policy))) : named ≤ wordMax := by
  simp only [readLine] at h
  split at h
  · simp at h
  · split at h
    · simp at h
    · obtain ⟨slice, hslice, h⟩ := bind_eq_ok_iff.1 h
      obtain ⟨code, -, h⟩ := bind_eq_ok_iff.1 h
      obtain ⟨policy', -, h⟩ := bind_eq_ok_iff.1 h
      cases h
      exact Number.le_of_readNat (mapError_eq_ok_iff.1 hslice)

/-! ### What lines say -/

theorem le_of_isSome_lastWord {slice : Nat} {ls : List (List Char)}
    (h : (lastWord slice ls).isSome) : slice ≤ wordMax := by
  induction ls with
  | nil => exact Bool.noConfusion h
  | cons line rest ih =>
      rw [lastWord, Option.isSome_or, Bool.or_eq_true] at h
      rcases h with hlater | hline
      · exact ih hlater
      · unfold lineWord at hline
        split at hline
        · rename_i named policy hsaid
          split at hline
          · rename_i heq
            exact heq ▸ le_of_readLine hsaid
          · exact Bool.noConfusion hline
        · exact Bool.noConfusion hline

theorem lastWord_map {f : List Char → List Char} (hf : ∀ line, readLine (f line) = readLine line)
    (slice : Nat) (ls : List (List Char)) : lastWord slice (ls.map f) = lastWord slice ls := by
  induction ls with
  | nil => rfl
  | cons line rest ih => rw [List.map_cons, lastWord, lastWord, ih, lineWord, lineWord, hf]

theorem legible_map {f : List Char → List Char} (hf : ∀ line, readLine (f line) = readLine line)
    {ls : List (List Char)} (h : Legible ls) : Legible (ls.map f) := by
  intro line hline
  obtain ⟨old, hold, rfl⟩ := List.mem_map.1 hline
  rw [hf]
  exact h old hold

/-- Lines that are read are legible, and the table has what they say. -/
theorem get?_of_readLines {path : Path} :
    ∀ {ls : List (List Char)} {number : Nat} {table read : PolicyTable},
      readLines path number table ls = .ok read →
        Legible ls ∧ ∀ slice, read.get? slice = (lastWord slice ls).or (table.get? slice) := by
  intro ls
  induction ls with
  | nil =>
      intro number table read h
      rw [← Except.ok.inj h]
      exact ⟨fun _ hline => absurd hline List.not_mem_nil, fun _ => rfl⟩
  | cons line rest ih =>
      intro number table read h
      simp only [readLines] at h
      split at h
      · simp at h
      · rename_i hsaid
        obtain ⟨hlegible, hget⟩ := ih h
        refine ⟨List.forall_mem_cons.2 ⟨⟨none, hsaid⟩, hlegible⟩, fun slice => ?_⟩
        rw [hget, lastWord, lineWord, hsaid, Option.or_none]
      · rename_i named policy hsaid
        obtain ⟨hlegible, hget⟩ := ih h
        refine ⟨List.forall_mem_cons.2 ⟨⟨_, hsaid⟩, hlegible⟩, fun slice => ?_⟩
        rw [hget, lastWord, lineWord_of_readLine hsaid, Option.or_assoc]
        by_cases hslice : slice = named
        · rw [hslice, SortedMap.get?_insert_self, if_pos rfl]
          rfl
        · rw [SortedMap.get?_insert_ne _ _ hslice, if_neg (Ne.symm hslice)]
          rfl

theorem exists_readLines (path : Path) :
    ∀ {ls : List (List Char)}, Legible ls →
      ∀ (number : Nat) (table : PolicyTable),
        ∃ read, readLines path number table ls = .ok read := by
  intro ls
  induction ls with
  | nil => intro _ number table; exact ⟨table, rfl⟩
  | cons line rest ih =>
      intro h number table
      obtain ⟨⟨said, hsaid⟩, hrest⟩ := List.forall_mem_cons.1 h
      simp only [readLines, hsaid]
      cases said with
      | none => exact ih hrest _ _
      | some entry => exact ih hrest _ _

/-! ### Bringing the lines up to date -/

/-- New lines say what they were written for. -/
theorem lastWord_map_line {es : List (Nat × Policy)}
    (hes : es.Pairwise fun a b => compare a.1 b.1 = .lt) (hwords : ∀ e ∈ es, e.1 ≤ wordMax)
    (slice : Nat) : lastWord slice (es.map fun e => line e.1 e.2) = es.lookup slice := by
  induction es with
  | nil => rfl
  | cons e rest ih =>
      obtain ⟨he, hrest⟩ := List.pairwise_cons.1 hes
      obtain ⟨hword, hwords'⟩ := List.forall_mem_cons.1 hwords
      rw [List.map_cons, lastWord, ih hrest hwords', lineWord_of_readLine (readLine_line e.2 hword)]
      by_cases hslice : slice = e.1
      · rw [hslice, SortedMap.lookup_eq_none_of_lt he, List.lookup_cons_self, if_pos rfl]
        rfl
      · rw [SortedMap.lookup_cons_ne hslice, if_neg (Ne.symm hslice), Option.or_none]

theorem forall_entries {table : PolicyTable}
    (hwords : ∀ slice ∈ table.keys, slice ≤ wordMax) : ∀ e ∈ table.entries, e.1 ≤ wordMax :=
  fun _ he => hwords _ (List.mem_map_of_mem he)

/-- What becomes of a line: a line of a slice that the table has takes the new policy, or goes
because the slice has its line already; any other line stays, and says nothing of a slice that the
table has. -/
theorem updateLines_cons (table : PolicyTable) (written : List Nat) (old : List Char)
    (rest : List (List Char)) :
    (∃ named said new, readLine old = .ok (some (named, said)) ∧ table.get? named = some new ∧
      (named ∈ written ∧ updateLines table written (old :: rest) = updateLines table written rest ∨
        named ∉ written ∧ updateLines table written (old :: rest)
          = line named new :: updateLines table (named :: written) rest)) ∨
      (updateLines table written (old :: rest) = old :: updateLines table written rest ∧
        ∀ slice policy, table.get? slice = some policy → lineWord slice old = none) := by
  rw [updateLines]
  split
  · rename_i named said hsaid
    split
    · rename_i new hnew
      refine .inl ⟨named, said, new, hsaid, hnew, ?_⟩
      by_cases hwritten : named ∈ written
      · exact .inl ⟨hwritten, by rw [if_pos (by simpa using hwritten)]⟩
      · exact .inr ⟨hwritten, by rw [if_neg (by simpa using hwritten)]⟩
    · rename_i hkept
      refine .inr ⟨rfl, fun slice policy hslice => ?_⟩
      rw [lineWord_of_readLine hsaid, if_neg]
      rintro rfl
      simp [hkept] at hslice
  · rename_i hsilent
    exact .inr ⟨rfl, fun slice _ _ => lineWord_of_silent hsilent slice⟩

/-- **Lines brought up to date say what the table has**, and of other slices what they said. -/
theorem lastWord_updateLines {table : PolicyTable} (hwords : ∀ slice ∈ table.keys, slice ≤ wordMax)
    (slice : Nat) :
    ∀ (ls : List (List Char)) (written : List Nat),
      lastWord slice (updateLines table written ls)
        = match table.get? slice with
          | none => lastWord slice ls
          | some policy => if slice ∈ written then none else some policy := by
  intro ls
  induction ls with
  | nil =>
      intro written
      rw [updateLines, lastWord_map_line (table.ascending.filter _)
        (fun e he => forall_entries hwords e (List.mem_filter.1 he).1),
        SortedMap.lookup_filter fun slice => !written.contains slice]
      show (if _ then table.get? slice else none) = _
      cases table.get? slice with
      | none => simp [lastWord]
      | some policy => simp
  | cons old rest ih =>
      intro written
      rcases updateLines_cons table written old rest with
        ⟨named, said, new, hsaid, hnew, ⟨hmem, hgone⟩ | ⟨hmem, htaken⟩⟩ | ⟨hkept, hsilent⟩
      · -- A line that goes says nothing of any slice but its own, which is written already.
        rw [hgone, ih, lastWord, lineWord_of_readLine hsaid]
        by_cases hslice : named = slice
        · subst hslice
          rw [hnew]
        · rw [if_neg hslice, Option.or_none]
      · have hword : named ≤ wordMax := hwords named (SortedMap.mem_keys_iff.2 ⟨_, hnew⟩)
        rw [htaken, lastWord, ih, lastWord, lineWord_of_readLine hsaid,
          lineWord_of_readLine (readLine_line new hword)]
        by_cases hslice : named = slice
        · subst hslice
          rw [hnew]
          simp [hmem]
        · have hmem' : slice ∈ named :: written ↔ slice ∈ written := by
            simp [Ne.symm hslice]
          simp only [if_neg hslice, Option.or_none, hmem']
      · rw [hkept, lastWord, ih, lastWord]
        cases hget : table.get? slice with
        | none => rfl
        | some policy => rw [hsilent slice policy hget, Option.or_none]

/-- A line of the updated record is an old one, or one that the table wrote. -/
theorem mem_updateLines {table : PolicyTable} {line' : List Char} :
    ∀ {ls : List (List Char)} {written : List Nat}, line' ∈ updateLines table written ls →
      line' ∈ ls ∨ ∃ slice ∈ table.keys, ∃ policy, line' = line slice policy := by
  intro ls
  induction ls with
  | nil =>
      intro written h
      rw [updateLines] at h
      obtain ⟨e, he, rfl⟩ := List.mem_map.1 h
      exact .inr ⟨e.1, List.mem_map_of_mem (List.mem_filter.1 he).1, e.2, rfl⟩
  | cons old rest ih =>
      intro written h
      rcases updateLines_cons table written old rest with
        ⟨named, -, new, -, hnew, ⟨-, hgone⟩ | ⟨-, htaken⟩⟩ | ⟨hkept, -⟩
      · rw [hgone] at h
        exact (ih h).imp_left (List.mem_cons_of_mem _)
      · rw [htaken] at h
        rcases List.mem_cons.1 h with rfl | h
        · exact .inr ⟨named, SortedMap.mem_keys_iff.2 ⟨_, hnew⟩, new, rfl⟩
        · exact (ih h).imp_left (List.mem_cons_of_mem _)
      · rw [hkept] at h
        rcases List.mem_cons.1 h with rfl | h
        · exact .inl List.mem_cons_self
        · exact (ih h).imp_left (List.mem_cons_of_mem _)

theorem legible_updateLines {table : PolicyTable} (hwords : ∀ slice ∈ table.keys, slice ≤ wordMax)
    {ls : List (List Char)} (h : Legible ls) (written : List Nat) :
    Legible (updateLines table written ls) := by
  intro line' hline
  rcases mem_updateLines hline with hold | ⟨slice, hslice, policy, rfl⟩
  · exact h line' hold
  · exact ⟨_, readLine_line policy (hwords slice hslice)⟩

/-! ### The text of the record -/

theorem get?_uniform (tenants : Nat) (policy : Policy) (slice : Nat) :
    (PolicyTable.uniform tenants policy).get? slice
      = if slice < tenants then some policy else none := by
  have hascending : ((List.range tenants).map fun slice => (slice, policy)).Pairwise
      fun a b => compare a.1 b.1 = .lt :=
    List.pairwise_map.2 (List.pairwise_lt_range.imp Nat.compare_eq_lt.2)
  rw [PolicyTable.uniform, SortedMap.get?_ofList hascending]
  split
  · rename_i hslice
    exact SortedMap.lookup_of_mem hascending
      (List.mem_map.2 ⟨slice, List.mem_range.2 hslice, rfl⟩)
  · rename_i hslice
    refine List.lookup_eq_none_iff.2 fun e he => bne_iff_ne.2 fun heq => hslice ?_
    obtain ⟨other, hother, rfl⟩ := List.mem_map.1 he
    rw [heq]
    exact List.mem_range.1 hother

theorem newline_not_mem_updateLines {record : String} {table : PolicyTable} {written : List Nat}
    {line : List Char} (h : line ∈ updateLines table written (Text.lines record.toList)) :
    '\n' ∉ line := by
  rcases mem_updateLines h with hold | ⟨slice, -, policy, rfl⟩
  · exact Text.not_mem_of_mem_lines hold
  · exact newline_not_mem_line slice policy

/-- The lines of an updated record are the updated lines, each without a carriage return. -/
theorem lines_update (record : String) (table : PolicyTable) :
    Text.lines (update record table).toList
      = (updateLines table [] (Text.lines record.toList)).map
        fun line => Text.closeLine line.reverse := by
  rw [update, String.toList_ofList]
  exact Text.lines_flatMap fun _ => newline_not_mem_updateLines

/-- The carriage return at the end of a line says nothing. -/
theorem readLine_closeLine (line : List Char) :
    readLine (Text.closeLine line.reverse) = readLine line := by
  refine readLine_congr ?_
  rw [Text.trim_closeLine, List.reverse_reverse]

theorem get?_fillIn (tenants : Nat) (table : PolicyTable) (slice : Nat) :
    (fillIn tenants table).get? slice
      = (table.get? slice).or (if slice < tenants then some .roundRobin else none) := by
  induction tenants with
  | zero => simp [fillIn]
  | succ n ih =>
      have hstep : fillIn (n + 1) table
          = if (fillIn n table).contains n then fillIn n table
            else (fillIn n table).insert n .roundRobin := by
        rw [fillIn, List.range_succ, List.foldl_append]
        rfl
      rw [hstep, SortedMap.contains]
      by_cases hslice : slice = n
      · subst hslice
        rw [ih, if_neg (Nat.lt_irrefl _), Option.or_none, if_pos (Nat.lt_succ_self _)]
        cases hget : table.get? slice with
        | none => simp
        | some policy =>
            rw [Option.isSome_some, if_pos rfl, ih, hget]
            rfl
      · have hlt : slice < n + 1 ↔ slice < n := by omega
        rw [apply_ite (SortedMap.get? · slice), SortedMap.get?_insert_ne _ _ hslice, ite_self, ih]
        simp only [hlt]

/-- An empty record has round-robin for every slice. -/
theorem read_empty (path : Path) (tenants : Nat) :
    read path tenants "" = .ok (.uniform tenants .roundRobin) := by
  have hlines : Text.lines "".toList = [] := by rfl
  rw [read, hlines]
  refine congrArg Except.ok (SortedMap.ext_get? fun slice => ?_)
  rw [get?_fillIn, SortedMap.get?_empty, Option.none_or, get?_uniform]

/-- What a record that can be read says: its last word, and round-robin where it has none. -/
theorem get?_of_read {path : Path} {tenants : Nat} {record : String} {table : PolicyTable}
    (h : read path tenants record = .ok table) :
    Legible (Text.lines record.toList) ∧ ∀ slice, table.get? slice
      = (lastWord slice (Text.lines record.toList)).or
        (if slice < tenants then some .roundRobin else none) := by
  obtain ⟨found, hfound, rfl⟩ := map_eq_ok_iff.1 h
  obtain ⟨hlegible, hget⟩ := get?_of_readLines hfound
  refine ⟨hlegible, fun slice => ?_⟩
  rw [get?_fillIn, hget, SortedMap.get?_empty, Option.or_none]

theorem exists_read (path : Path) (tenants : Nat) {record : String}
    (h : Legible (Text.lines record.toList)) : ∃ table, read path tenants record = .ok table := by
  obtain ⟨found, hfound⟩ := exists_readLines path h 1 .empty
  exact ⟨fillIn tenants found, by rw [read, hfound]; rfl⟩

/-- **An updated record reads as the table**, and as the old record where the table has
nothing. -/
theorem read_update {path : Path} {tenants : Nat} {record : String} {old table : PolicyTable}
    (hread : read path tenants record = .ok old) (hwords : ∀ slice ∈ table.keys, slice ≤ wordMax) :
    ∃ new, read path tenants (update record table) = .ok new ∧
      ∀ slice, new.get? slice = (table.get? slice).or (old.get? slice) := by
  obtain ⟨hlegible, hold⟩ := get?_of_read hread
  have hlegible' : Legible (Text.lines (update record table).toList) := by
    rw [lines_update]
    exact legible_map readLine_closeLine (legible_updateLines hwords hlegible [])
  obtain ⟨new, hnew⟩ := exists_read path tenants hlegible'
  refine ⟨new, hnew, fun slice => ?_⟩
  rw [(get?_of_read hnew).2, hold, lines_update, lastWord_map readLine_closeLine,
    lastWord_updateLines hwords]
  cases table.get? slice with
  | none => rfl
  | some policy => simp

end RanSlicing.PolicyRecord
