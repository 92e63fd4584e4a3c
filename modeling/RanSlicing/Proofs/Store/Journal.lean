/-
A journal of the writes that were tried.

A store that refused a write and one that was never asked look the same afterwards.  To tell what
an operation did from what it tried, `Journal` keeps a list beside a store in which each write is
entered with its answer.  The journal answers as the store inside does and keeps the same laws, so
an operation on it is the operation on the store, watched (`forget`).

Masks that are written one after the other are entered up to the first one that is refused
(`Tried`).  What came on record is therefore a beginning of the list, the whole of it exactly if
the answer is that all went well.
-/
import RanSlicing.Proofs.Store.Laws

namespace RanSlicing

open Store

/-- A write that was tried, and the answer of the store. -/
inductive Attempt where
  | mask (slice : Nat) (mask : Mask) (answer : Except Fault Unit)
  | policies (table : PolicyTable) (answer : Except Fault Unit)
  deriving DecidableEq

namespace Attempt

/-- The answer of the store. -/
def answer : Attempt → Except Fault Unit
  | .mask _ _ answer => answer
  | .policies _ answer => answer

/-- Whether the record was written. -/
def accepted (a : Attempt) : Bool := a.answer = .ok ()

/-- The mask that came on record, with its slice. -/
def written? : Attempt → Option (Nat × Mask)
  | .mask slice held (.ok ()) => some (slice, held)
  | _ => none

@[simp] theorem accepted_mask (slice : Nat) (held : Mask) (answer : Except Fault Unit) :
    (mask slice held answer).accepted = decide (answer = .ok ()) := rfl

@[simp] theorem accepted_policies (table : PolicyTable) (answer : Except Fault Unit) :
    (policies table answer).accepted = decide (answer = .ok ()) := rfl

end Attempt

/-- A store and the writes that were tried on it, in order. -/
structure Journal (σ : Type) where
  store : σ
  attempts : List Attempt

namespace Journal

variable {σ α : Type}

/-- The journal of a store on which nothing was tried yet. -/
def start (s : σ) : Journal σ := ⟨s, []⟩

/-- The masks that came on record, in order. -/
def written (j : Journal σ) : List (Nat × Mask) := j.attempts.filterMap Attempt.written?

/-- No write was refused. -/
def Unrefused (j : Journal σ) : Prop := ∀ a ∈ j.attempts, a.accepted = true

instance (j : Journal σ) : Decidable j.Unrefused :=
  inferInstanceAs (Decidable (∀ a ∈ j.attempts, a.accepted = true))

/-- A record was written and another write was refused. -/
def Interrupted (j : Journal σ) : Prop :=
  (∃ a ∈ j.attempts, a.accepted = true) ∧ ∃ a ∈ j.attempts, a.accepted = false

instance (j : Journal σ) : Decidable j.Interrupted :=
  inferInstanceAs (Decidable (_ ∧ _))

/-- Enters a write with what the store made of it. -/
def enter (j : Journal σ) (attempt : Except Fault Unit → Attempt)
    (outcome : Except Fault Unit × σ) : Except Fault Unit × Journal σ :=
  (outcome.1, ⟨outcome.2, j.attempts ++ [attempt outcome.1]⟩)

variable [Store σ]

instance : Store (Journal σ) where
  readMask j := readMask j.store
  hasMask? j := hasMask? j.store
  writeMask j slice mask := j.enter (.mask slice mask) (writeMask j.store slice mask)
  readPolicies j := readPolicies j.store
  writePolicies j table := j.enter (.policies table) (writePolicies j.store table)

theorem writeMask_eq_iff {j k : Journal σ} {slice : Nat} {mask : Mask}
    {answer : Except Fault Unit} :
    writeMask j slice mask = (answer, k) ↔
      writeMask j.store slice mask = (answer, k.store) ∧
        k.attempts = j.attempts ++ [.mask slice mask answer] := by
  show j.enter _ (writeMask j.store slice mask) = _ ↔ _
  obtain ⟨t, attempts⟩ := k
  cases writeMask j.store slice mask with
  | mk answer' t' =>
      simp only [enter, Prod.mk.injEq, Journal.mk.injEq]
      constructor
      · rintro ⟨rfl, rfl, rfl⟩
        exact ⟨⟨rfl, rfl⟩, rfl⟩
      · rintro ⟨⟨rfl, rfl⟩, rfl⟩
        exact ⟨rfl, rfl, rfl⟩

theorem writePolicies_eq_iff {j k : Journal σ} {table : PolicyTable}
    {answer : Except Fault Unit} :
    writePolicies j table = (answer, k) ↔
      writePolicies j.store table = (answer, k.store) ∧
        k.attempts = j.attempts ++ [.policies table answer] := by
  show j.enter _ (writePolicies j.store table) = _ ↔ _
  obtain ⟨t, attempts⟩ := k
  cases writePolicies j.store table with
  | mk answer' t' =>
      simp only [enter, Prod.mk.injEq, Journal.mk.injEq]
      constructor
      · rintro ⟨rfl, rfl, rfl⟩
        exact ⟨⟨rfl, rfl⟩, rfl⟩
      · rintro ⟨⟨rfl, rfl⟩, rfl⟩
        exact ⟨rfl, rfl, rfl⟩

/-! ### No write was refused -/

omit [Store σ] in
theorem Unrefused.of_prefix {j k : Journal σ} (hk : k.Unrefused)
    (h : j.attempts <+: k.attempts) : j.Unrefused := fun a ha => hk a (h.subset ha)

theorem Unrefused.of_writeMask {j k : Journal σ} (hk : k.Unrefused) {slice : Nat} {mask : Mask}
    {answer : Except Fault Unit} (h : writeMask j slice mask = (answer, k)) : answer = .ok () := by
  have haccepted := hk (.mask slice mask answer) (by rw [(writeMask_eq_iff.1 h).2]; simp)
  simpa using haccepted

theorem Unrefused.of_writePolicies {j k : Journal σ} (hk : k.Unrefused) {table : PolicyTable}
    {answer : Except Fault Unit} (h : writePolicies j table = (answer, k)) : answer = .ok () := by
  have haccepted := hk (.policies table answer) (by rw [(writePolicies_eq_iff.1 h).2]; simp)
  simpa using haccepted

/-! ### The store inside -/

/-- What an operation on the journal did to the store. -/
def forget (outcome : α × Journal σ) : α × σ := (outcome.1, outcome.2.store)

omit [Store σ] in
theorem forget_mk (answer : α) (j : Journal σ) : forget (answer, j) = (answer, j.store) := rfl

theorem readMasks_eq (j : Journal σ) (tenants : Nat) :
    readMasks j tenants = readMasks j.store tenants := rfl

theorem readPolicies_eq (j : Journal σ) : readPolicies j = readPolicies j.store := rfl

theorem forget_writeMask (j : Journal σ) (slice : Nat) (mask : Mask) :
    forget (writeMask j slice mask) = writeMask j.store slice mask := rfl

theorem forget_writePolicies (j : Journal σ) (table : PolicyTable) :
    forget (writePolicies j table) = writePolicies j.store table := rfl

theorem forget_writeMasks (j : Journal σ) (entries : List (Nat × Mask)) :
    forget (writeMasks j entries) = writeMasks j.store entries := by
  induction entries generalizing j with
  | nil => rfl
  | cons e rest ih =>
      obtain ⟨slice, mask⟩ := e
      simp only [writeMasks, ← forget_writeMask]
      cases writeMask j slice mask with
      | mk answer k =>
          cases answer with
          | ok u => exact ih k
          | error e => rfl

/-! ### Masks one after the other -/

/-- What is entered when masks are written in order, up to the first that is refused. -/
inductive Tried : List (Nat × Mask) → Except Fault Unit → List Attempt → Prop
  | none : Tried [] (.ok ()) []
  | accepted {slice : Nat} {mask : Mask} {rest : List (Nat × Mask)}
      {answer : Except Fault Unit} {attempts : List Attempt} (h : Tried rest answer attempts) :
      Tried ((slice, mask) :: rest) answer (.mask slice mask (.ok ()) :: attempts)
  | refused {slice : Nat} {mask : Mask} {rest : List (Nat × Mask)} {e : Fault} :
      Tried ((slice, mask) :: rest) (.error e) [.mask slice mask (.error e)]

theorem tried_writeMasks (j : Journal σ) (entries : List (Nat × Mask)) :
    ∃ attempts, (writeMasks j entries).2.attempts = j.attempts ++ attempts ∧
      Tried entries (writeMasks j entries).1 attempts := by
  induction entries generalizing j with
  | nil => exact ⟨[], (List.append_nil _).symm, .none⟩
  | cons e rest ih =>
      obtain ⟨slice, mask⟩ := e
      cases hwrite : writeMask j slice mask with
      | mk answer k =>
          obtain ⟨-, hattempts⟩ := writeMask_eq_iff.1 hwrite
          simp only [writeMasks, hwrite]
          cases answer with
          | ok u =>
              obtain ⟨attempts, hall, htried⟩ := ih k
              exact ⟨_, by rw [hall, hattempts, List.append_assoc, List.singleton_append],
                .accepted htried⟩
          | error e => exact ⟨_, hattempts, .refused⟩

namespace Tried

variable {entries : List (Nat × Mask)} {answer : Except Fault Unit} {attempts : List Attempt}

/-- What came on record is a beginning of what was to be written, and all of it if the answer is
that it was. -/
theorem written_eq (h : Tried entries answer attempts) :
    ∃ k, attempts.filterMap Attempt.written? = entries.take k ∧
      (answer = .ok () ∧ k = entries.length ∨ answer ≠ .ok () ∧ k < entries.length) := by
  induction h with
  | none => exact ⟨0, rfl, .inl ⟨rfl, rfl⟩⟩
  | @accepted slice mask rest answer attempts _ ih =>
      obtain ⟨k, hwritten, hk⟩ := ih
      refine ⟨k + 1, ?_, ?_⟩
      · rw [List.take_succ_cons, ← hwritten]
        rfl
      · simpa using hk
  | refused => exact ⟨0, rfl, .inr ⟨by simp, by simp⟩⟩

/-- Something came on record exactly if a write was accepted. -/
theorem exists_accepted_iff (h : Tried entries answer attempts) :
    (∃ a ∈ attempts, a.accepted = true) ↔ attempts.filterMap Attempt.written? ≠ [] := by
  cases h with
  | none => simp
  | accepted _ => simp [Attempt.written?]
  | refused => simp [Attempt.written?]

theorem mem_of_written (h : Tried entries answer attempts) {e : Nat × Mask}
    (he : e ∈ attempts.filterMap Attempt.written?) : e ∈ entries := by
  obtain ⟨k, hwritten, -⟩ := h.written_eq
  rw [hwritten] at he
  exact List.mem_of_mem_take he

/-- A write was refused exactly if the answer says so. -/
theorem exists_refused_iff (h : Tried entries answer attempts) :
    (∃ a ∈ attempts, a.accepted = false) ↔ answer ≠ .ok () := by
  induction h with
  | none => simp
  | accepted _ ih => simpa using ih
  | refused => simp

end Tried

theorem Unrefused.of_writeMasks {j k : Journal σ} (hk : k.Unrefused)
    {entries : List (Nat × Mask)} {answer : Except Fault Unit}
    (h : writeMasks j entries = (answer, k)) : answer = .ok () := by
  obtain ⟨attempts, hall, htried⟩ := tried_writeMasks j entries
  rw [h] at hall htried
  by_contra hne
  obtain ⟨a, ha, hrefused⟩ := htried.exists_refused_iff.2 hne
  have haccepted := hk a (by rw [hall]; exact List.mem_append_right _ ha)
  exact Bool.noConfusion (hrefused.symm.trans haccepted)

end Journal

/-! ### The laws -/

namespace Store

variable {σ : Type} [Store σ] {sound : σ → Prop} {fits : Nat → Prop}

/-- **A journal keeps the laws of its store.** -/
theorem Laws.journal (laws : Laws sound fits) :
    Laws (σ := Journal σ) (fun j => sound j.store) fits where
  width_of_readMask hs h := laws.width_of_readMask hs h
  unassigned_of_not_hasMask hs hnone h := laws.unassigned_of_not_hasMask hs hnone h
  mask_accepted hs hfits h := by
    obtain ⟨hsound, hmasks, hrecorded, hpolicies⟩ :=
      laws.mask_accepted hs hfits (Journal.writeMask_eq_iff.1 h).1
    exact ⟨hsound, hmasks, hrecorded, hpolicies⟩
  mask_refused hs h := by
    obtain ⟨hsound, hmasks, hrecorded, hpolicies⟩ :=
      laws.mask_refused hs (Journal.writeMask_eq_iff.1 h).1
    exact ⟨hsound, hmasks, hrecorded, hpolicies⟩
  policies_accepted hs h := by
    obtain ⟨hsound, hmasks, hrecorded, hpolicies⟩ :=
      laws.policies_accepted hs (Journal.writePolicies_eq_iff.1 h).1
    exact ⟨hsound, hmasks, hrecorded, hpolicies⟩
  policies_refused hs h := by
    obtain ⟨hsound, hmasks, hrecorded, hpolicies⟩ :=
      laws.policies_refused hs (Journal.writePolicies_eq_iff.1 h).1
    exact ⟨hsound, hmasks, hrecorded, hpolicies⟩

/-- What is read after masks of ascending slices were written, whether or not each of them was
accepted. -/
theorem Laws.tried_writeMasks (laws : Laws sound fits) {j : Journal σ}
    {entries : List (Nat × Mask)} (hentries : entries.Pairwise fun a b => compare a.1 b.1 = .lt)
    (hfits : ∀ e ∈ entries, fits e.2.width) (hs : sound j.store) :
    ∃ attempts, (writeMasks j entries).2.attempts = j.attempts ++ attempts ∧
      Journal.Tried entries (writeMasks j entries).1 attempts ∧
        MasksWritten j.store (writeMasks j entries).2.store
          (attempts.filterMap Attempt.written?) := by
  induction entries generalizing j with
  | nil => exact ⟨[], (List.append_nil _).symm, .none, .refl j.store⟩
  | cons e rest ih =>
      obtain ⟨slice, mask⟩ := e
      obtain ⟨hlow, hrest⟩ := List.pairwise_cons.1 hentries
      cases hwrite : writeMask j slice mask with
      | mk answer k =>
          obtain ⟨hstore, hattempts⟩ := Journal.writeMask_eq_iff.1 hwrite
          cases answer with
          | ok u =>
              simp only [writeMasks, hwrite]
              obtain ⟨hsound, hwritten⟩ :=
                laws.mask_accepted hs (hfits (slice, mask) (by simp)) hstore
              obtain ⟨attempts, hall, htried, hwritten'⟩ :=
                ih hrest (fun e he => hfits e (List.mem_cons_of_mem _ he)) hsound
              refine ⟨.mask slice mask (.ok ()) :: attempts, ?_, .accepted htried, ?_⟩
              · rw [hall, hattempts, List.append_assoc, List.singleton_append]
              · exact hwritten.cons hwritten' (SortedMap.lookup_eq_none_of_lt fun e he =>
                  hlow e (htried.mem_of_written he))
          | error e =>
              simp only [writeMasks, hwrite]
              obtain ⟨-, hmasks, hrecorded, hpolicies⟩ := laws.mask_refused hs hstore
              exact ⟨_, hattempts, .refused, hmasks, hrecorded, hpolicies⟩

end Store

end RanSlicing
