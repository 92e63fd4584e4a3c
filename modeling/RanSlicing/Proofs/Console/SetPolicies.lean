/-
What setting policies writes, and when.

The record is to be written once, and only if something changed.  Whether something changed is noted
assignment by assignment while the table is made, and so it is an answer about the way and not about
where it led: a slice that is assigned one policy and then the one it had counts as changed, and the
record is written with what it said before.  `policies_set` gives all that is written and answered,
and says that the answer is wrong about the table in just this case.
-/
import RanSlicing.Console.View
import RanSlicing.Proofs.Store.Journal
import RanSlicing.Proofs.Store.Memory

namespace RanSlicing.Operator

open Number (wordMax)
open Store

/-! ### The table -/

/-- The policy that a slice is assigned last, if it is assigned one. -/
def lastAssigned (assignments : List (Nat × Policy)) (slice : Nat) : Option Policy :=
  assignments.reverse.lookup slice

theorem lastAssigned_cons (a : Nat × Policy) (rest : List (Nat × Policy)) (slice : Nat) :
    lastAssigned (a :: rest) slice =
      (lastAssigned rest slice).or (if slice = a.1 then some a.2 else none) := by
  rw [lastAssigned, List.reverse_cons, List.lookup_append, lastAssigned]
  by_cases hslice : slice = a.1
  · rw [if_pos hslice, hslice, List.lookup_cons_self]
  · rw [if_neg hslice, SortedMap.lookup_cons_ne hslice, List.lookup_nil]

theorem mem_of_lastAssigned {assignments : List (Nat × Policy)} {slice : Nat} {policy : Policy}
    (h : lastAssigned assignments slice = some policy) : (slice, policy) ∈ assignments :=
  List.mem_reverse.1 (SortedMap.mem_of_lookup h)

/-- Assignments that are made one after the other, and a note of whether the table changed. -/
theorem foldl_set (assignments : List (Nat × Policy)) (state : PolicyTable × Bool) :
    let done := assignments.foldl
      (fun (table, changed) (slice, policy) =>
        let (table, now) := table.set slice policy
        (table, changed || now)) state
    (∀ slice, done.1.get? slice = (lastAssigned assignments slice).or (state.1.get? slice)) ∧
      (done.2 = true ↔ state.2 = true ∨ ∃ a ∈ assignments, state.1.get? a.1 ≠ some a.2) := by
  induction assignments generalizing state with
  | nil => exact ⟨fun _ => rfl, by simp⟩
  | cons a rest ih =>
      obtain ⟨slice, policy⟩ := a
      obtain ⟨hget, hflag⟩ := ih (state.1.insert slice policy,
        state.2 || state.1.get? slice != some policy)
      have hinsert : ∀ other, (state.1.insert slice policy).get? other =
          (if other = slice then some policy else none).or (state.1.get? other) := by
        intro other
        by_cases hother : other = slice
        · rw [hother, SortedMap.get?_insert_self, if_pos rfl, Option.some_or]
        · rw [SortedMap.get?_insert_ne _ _ hother, if_neg hother, Option.none_or]
      intro done
      refine ⟨fun other => ?_, ?_⟩
      · rw [lastAssigned_cons, Option.or_assoc, ← hinsert]
        exact hget other
      · refine hflag.trans ?_
        rw [Bool.or_eq_true, bne_iff_ne, or_assoc]
        simp only [List.mem_cons, exists_eq_or_imp]
        refine or_congr_right ?_
        by_cases hsame : state.1.get? slice = some policy
        · -- The assignment changes nothing, so the rest meets the same table.
          have htable : state.1.insert slice policy = state.1 := by
            refine SortedMap.ext_get? fun other => ?_
            rw [hinsert]
            by_cases hother : other = slice
            · rw [hother, if_pos rfl, Option.some_or, hsame]
            · rw [if_neg hother, Option.none_or]
          simp only [htable]
        · exact iff_of_true (.inl hsame) (.inl hsame)

/-- What becomes of a table under assignments, and what is said about it. -/
structure Assigned (old : PolicyTable) (assignments : List (Nat × Policy)) (new : PolicyTable)
    (changed : Bool) : Prop where
  /-- Each slice has the policy that it was assigned last, and the others what they had. -/
  policies : ∀ slice, new.get? slice = (lastAssigned assignments slice).or (old.get? slice)
  /-- A change is noted exactly if some assignment is not what the slice had at first. -/
  changed_iff : changed = true ↔ ∃ a ∈ assignments, old.get? a.1 ≠ some a.2
  /-- The table is another one exactly if some slice was last assigned what it had not. -/
  differs_iff : new ≠ old ↔
    ∃ slice policy, lastAssigned assignments slice = some policy ∧ old.get? slice ≠ some policy
  /-- A change is noted of a table that is the same exactly if what was changed was changed back. -/
  undone_iff : (changed = true ∧ new = old) ↔ (∃ a ∈ assignments, old.get? a.1 ≠ some a.2) ∧
    ∀ slice policy, lastAssigned assignments slice = some policy → old.get? slice = some policy

theorem assigned_assignAll (old : PolicyTable) (assignments : List (Nat × Policy)) :
    Assigned old assignments (assignAll old assignments).1 (assignAll old assignments).2 := by
  obtain ⟨hget, hflag⟩ := foldl_set assignments (old, false)
  have hpolicies : ∀ slice, (assignAll old assignments).1.get? slice =
      (lastAssigned assignments slice).or (old.get? slice) := hget
  have hchanged : (assignAll old assignments).2 = true ↔
      ∃ a ∈ assignments, old.get? a.1 ≠ some a.2 :=
    hflag.trans (or_iff_right Bool.false_ne_true)
  have hsame : (assignAll old assignments).1 = old ↔ ∀ slice policy,
      lastAssigned assignments slice = some policy → old.get? slice = some policy := by
    constructor
    · intro heq slice policy hlast
      have hslice := hpolicies slice
      rw [heq, hlast, Option.some_or] at hslice
      exact hslice
    · intro hkept
      refine SortedMap.ext_get? fun slice => ?_
      rw [hpolicies]
      cases hlast : lastAssigned assignments slice with
      | none => rfl
      | some policy => exact (hkept slice policy hlast).symm
  refine ⟨hpolicies, hchanged, ?_, and_congr hchanged hsame⟩
  rw [Ne, hsame]
  push Not
  rfl

/-- Without a change that is noted the table is the same. -/
theorem Assigned.eq_of_not_changed {old new : PolicyTable} {assignments : List (Nat × Policy)}
    (h : Assigned old assignments new false) : new = old := by
  refine SortedMap.ext_get? fun slice => ?_
  rw [h.policies]
  cases hlast : lastAssigned assignments slice with
  | none => rfl
  | some policy =>
      by_contra hne
      exact Bool.false_ne_true
        (h.changed_iff.2 ⟨_, mem_of_lastAssigned hlast, fun heq => hne heq.symm⟩)

/-! ### The record -/

variable {σ : Type} [Store σ] {tenants : Nat} {assignments : List (Nat × Policy)}

/-- Policies for configured slices are written if a change is noted. -/
theorem setPolicies_eq {s : σ} (hconfigured : ∀ a ∈ assignments, a.1 < tenants)
    {old : PolicyTable} (hread : readPolicies s = .ok old) :
    setPolicies tenants s assignments =
      if (assignAll old assignments).2 then
        match writePolicies s (assignAll old assignments).1 with
        | (.ok (), t) => (.ok true, t)
        | (.error e, t) => (.error (.store e), t)
      else (.ok false, s) := by
  have hnone : assignments.find? (fun a => tenants ≤ a.1) = none := by
    rw [List.find?_eq_none]
    intro a ha
    have := hconfigured a ha
    simpa using this
  rw [setPolicies, hnone, hread]
  simp only
  cases assignAll old assignments with
  | mk table changed => cases changed <;> rfl

/-- A table that was assigned extends the one it came from. -/
theorem Assigned.extends {old new : PolicyTable} {changed : Bool}
    (h : Assigned old assignments new changed) (htenants : tenants ≤ wordMax)
    (hconfigured : ∀ a ∈ assignments, a.1 < tenants) : Extends old new := by
  refine ⟨fun slice hslice => ?_, fun slice hslice => ?_⟩
  · rw [h.policies, Option.isSome_or, hslice, Bool.or_true]
  · rw [h.policies, Option.isSome_or, Bool.or_eq_true] at hslice
    refine hslice.symm.imp_right fun hlast => ?_
    obtain ⟨policy, hpolicy⟩ := Option.isSome_iff_exists.1 hlast
    have hlt : slice < tenants := hconfigured _ (mem_of_lastAssigned hpolicy)
    omega

/-- **What setting policies writes and answers.**  Where the policies can be read and writes are
accepted, the record is written once if a change was noted and not at all otherwise, the answer is
whether it was, and the policies read as the assignments say.  But the answer is about the single
assignments: it is true of a record that reads as before exactly if every policy that was changed
was changed back. -/
theorem policies_set {width : Nat} {s : σ} (hs : Faithful width s) {old : PolicyTable}
    (hread : readPolicies s = .ok old) (htenants : tenants ≤ wordMax)
    (hconfigured : ∀ a ∈ assignments, a.1 < tenants)
    (haccepted : ∀ table, (writePolicies s table).1 = .ok ()) :
    ∃ changed t new, setPolicies tenants s assignments = (.ok changed, t) ∧
      (setPolicies tenants (Journal.start s) assignments).2.attempts =
        (if changed then [.policies new (.ok ())] else []) ∧
      readPolicies t = .ok new ∧ (∀ slice, readMask t slice = readMask s slice) ∧
      Assigned old assignments new changed := by
  have hassigned := assigned_assignAll old assignments
  have hplain := setPolicies_eq hconfigured hread
  have hwatched := setPolicies_eq (s := Journal.start s) hconfigured hread
  generalize assignAll old assignments = result at hassigned hplain hwatched
  obtain ⟨new, changed⟩ := result
  cases changed with
  | false =>
      obtain rfl : new = old := hassigned.eq_of_not_changed
      exact ⟨false, s, new, hplain, by rw [hwatched]; rfl, hread, fun _ => rfl, hassigned⟩
  | true =>
      obtain ⟨t, ht⟩ : ∃ t, writePolicies s new = (.ok (), t) :=
        ⟨_, Prod.ext (haccepted new) rfl⟩
      have hentered : writePolicies (Journal.start s) new =
          (.ok (), ⟨t, [.policies new (.ok ())]⟩) := Journal.writePolicies_eq_iff.2 ⟨ht, rfl⟩
      obtain ⟨sound, fits, laws, -, hsound⟩ := hs
      obtain ⟨-, hwritten⟩ := laws.policies_accepted hsound ht
      refine ⟨true, t, new, ?_, ?_, ?_, hwritten.masks, hassigned⟩
      · simp only [hplain, ht, if_true]
      · simp only [hwatched, hentered, if_true]
      · exact hwritten.policies old hread (hassigned.extends htenants hconfigured)

/-- Slice 1 of two is assigned one policy and then another one. -/
theorem policies_set_of_second_thoughts :
    let old : PolicyTable := .ofList [(0, .roundRobin), (1, .roundRobin)]
    let s : MemoryStore := { MemoryStore.empty 4 with policies := some old }
    let assignments : List (Nat × Policy) := [(1, .proportional), (1, .waterfilling)]
    readPolicies s = .ok old ∧ (∀ a ∈ assignments, a.1 < 2) ∧
      (∀ table, (writePolicies s table).1 = .ok ()) ∧
      ∃ changed t new, setPolicies 2 s assignments = (.ok changed, t) ∧
        readPolicies t = .ok new ∧ Assigned old assignments new changed := by
  intro old s assignments
  have hconfigured : ∀ a ∈ assignments, a.1 < 2 := by decide
  have haccepted : ∀ table, (writePolicies s table).1 = .ok () := fun table => by
    obtain ⟨stats, hwrite⟩ := MemoryStore.writePolicies_of_not_rejecting (s := s) rfl table
    rw [hwrite]
  obtain ⟨changed, t, new, hset, -, hread, -, hassigned⟩ :=
    policies_set (MemoryStore.faithful 4 s) rfl (by decide) hconfigured haccepted
  exact ⟨rfl, hconfigured, haccepted, changed, t, new, hset, hread, hassigned⟩

/-- Slice 0 is assigned another policy and then the one it has.  The policies are the same, and yet
the record is written and a change is answered. -/
theorem written_although_same :
    let old : PolicyTable := .ofList [(0, .roundRobin), (1, .roundRobin)]
    let s : MemoryStore := { MemoryStore.empty 4 with policies := some old }
    let assignments : List (Nat × Policy) := [(0, .waterfilling), (0, .roundRobin)]
    readPolicies s = .ok old ∧ (setPolicies 2 s assignments).1 = .ok true ∧
      (setPolicies 2 (Journal.start s) assignments).2.attempts = [.policies old (.ok ())] ∧
      readPolicies (setPolicies 2 s assignments).2 = .ok old := by
  decide +kernel

end RanSlicing.Operator
