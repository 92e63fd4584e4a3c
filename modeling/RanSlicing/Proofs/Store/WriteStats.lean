/-
What a store counts of its writes.

A journal enters every write with its answer, so what ought to be counted can be read off it
(`WriteStats.ofAttempts`), and a count over a run of calls is a sum over the single writes.  A store
in memory counts just that.  A store in files counts what it accepts, but not all that it refuses:
the policy record is read before it is written anew, and a record that cannot be read ends the write
before anything is counted.  These writes are the only ones that escape (`Attempt.unread`).
-/
import RanSlicing.Proofs.Store.Journal
import RanSlicing.Proofs.Store.Files
import RanSlicing.Store.Memory

namespace RanSlicing

open Store

/-! ### Calls on a store -/

/-- What can be asked of a store. -/
inductive StoreCall where
  | readMask (slice : Nat)
  | readMasks (tenants : Nat)
  | hasMask (slice : Nat)
  | writeMask (slice : Nat) (mask : Mask)
  | readPolicies
  | writePolicies (table : PolicyTable)
  deriving DecidableEq

namespace Store

variable {σ : Type} [Store σ]

/-- The store after a call; what is only read leaves it as it is. -/
def called (s : σ) : StoreCall → σ
  | .writeMask slice mask => (writeMask s slice mask).2
  | .writePolicies table => (writePolicies s table).2
  | .readMask _ | .readMasks _ | .hasMask _ | .readPolicies => s

/-- The store after calls one after the other. -/
def afterCalls (s : σ) (calls : List StoreCall) : σ := calls.foldl called s

end Store

/-- The writes that were tried in the course of calls, with their answers. -/
def Store.attempts {σ : Type} [Store σ] (s : σ) (calls : List StoreCall) : List Attempt :=
  (afterCalls (Journal.start s) calls).attempts

namespace Store

variable {σ : Type} [Store σ]

theorem called_journal (j : Journal σ) (call : StoreCall) :
    called j call = ⟨called j.store call, j.attempts ++ attempts j.store [call]⟩ := by
  cases call with
  | writeMask slice mask => rfl
  | writePolicies table => rfl
  | readMask _ | readMasks _ | hasMask _ | readPolicies =>
      exact congrArg (Journal.mk j.store) (List.append_nil _).symm

/-- **A journal beside a store** has what the store becomes, and enters what is tried on it. -/
theorem afterCalls_journal (calls : List StoreCall) (j : Journal σ) :
    afterCalls j calls = ⟨afterCalls j.store calls, j.attempts ++ attempts j.store calls⟩ := by
  induction calls generalizing j with
  | nil => exact congrArg (Journal.mk j.store) (List.append_nil _).symm
  | cons call rest ih =>
      have hcons : ∀ k : Journal σ, afterCalls k (call :: rest)
          = ⟨afterCalls (called k.store call) rest,
            k.attempts ++ attempts k.store [call] ++ attempts (called k.store call) rest⟩ := by
        intro k
        show afterCalls (called k call) rest = _
        rw [called_journal, ih]
      have hattempts : attempts j.store (call :: rest)
          = attempts j.store [call] ++ attempts (called j.store call) rest :=
        congrArg Journal.attempts (hcons (Journal.start j.store))
      rw [hcons, hattempts, List.append_assoc]
      rfl

theorem attempts_cons (s : σ) (call : StoreCall) (rest : List StoreCall) :
    attempts s (call :: rest) = attempts s [call] ++ attempts (called s call) rest := by
  show (afterCalls (called (Journal.start s) call) rest).attempts = _
  rw [afterCalls_journal, called_journal]
  rfl

end Store

/-! ### What ought to be counted -/

namespace Attempt

/-- A mask came on record. -/
def keptMask : Attempt → Bool
  | .mask _ _ (.ok ()) => true
  | _ => false

/-- The policies came on record. -/
def keptPolicies : Attempt → Bool
  | .policies _ (.ok ()) => true
  | _ => false

/-- The write was refused. -/
def refused (a : Attempt) : Bool := !a.accepted

/-- The write of the policies ended when the record that is there was to be read. -/
def unread : Attempt → Bool
  | .policies _ (.error (.unreadable _ _)) => true
  | _ => false

end Attempt

namespace WriteStats

/-- The number of writes carried out and refused. -/
def ofAttempts (attempts : List Attempt) : WriteStats where
  masks := attempts.countP Attempt.keptMask
  policies := attempts.countP Attempt.keptPolicies
  failed := attempts.countP Attempt.refused

/-- What has been counted between two counts, if `missed` of the refused writes were not. -/
structure Grown (before after : WriteStats) (attempts : List Attempt) (missed : Nat) : Prop where
  masks : after.masks = before.masks + (ofAttempts attempts).masks
  policies : after.policies = before.policies + (ofAttempts attempts).policies
  failed : after.failed + missed = before.failed + (ofAttempts attempts).failed

namespace Grown

theorem refl (stats : WriteStats) : Grown stats stats [] 0 := ⟨rfl, rfl, rfl⟩

/-- Counts add up. -/
theorem append {a b c : WriteStats} {first second : List Attempt} {m n : Nat}
    (hab : Grown a b first m) (hbc : Grown b c second n) : Grown a c (first ++ second) (m + n) := by
  obtain ⟨hmasks, hpolicies, hfailed⟩ := hab
  obtain ⟨hmasks', hpolicies', hfailed'⟩ := hbc
  simp only [ofAttempts] at hmasks hpolicies hfailed hmasks' hpolicies' hfailed'
  constructor <;> simp only [ofAttempts, List.countP_append] <;> omega

theorem kept_mask (stats : WriteStats) (slice : Nat) (mask : Mask) :
    Grown stats { stats with masks := stats.masks + 1 } [.mask slice mask (.ok ())] 0 :=
  ⟨rfl, rfl, rfl⟩

theorem kept_policies (stats : WriteStats) (table : PolicyTable) :
    Grown stats { stats with policies := stats.policies + 1 } [.policies table (.ok ())] 0 :=
  ⟨rfl, rfl, rfl⟩

/-- A write that was refused counts as that and as nothing else. -/
theorem counted_refusal {a : Attempt} {e : Fault} (h : a.answer = .error e) (stats : WriteStats) :
    Grown stats { stats with failed := stats.failed + 1 } [a] 0 := by
  cases a <;> obtain rfl : _ = Except.error e := h <;> exact ⟨rfl, rfl, rfl⟩

theorem missed_refusal {a : Attempt} {e : Fault} (h : a.answer = .error e) (stats : WriteStats) :
    Grown stats stats [a] 1 := by
  cases a <;> obtain rfl : _ = Except.error e := h <;> exact ⟨rfl, rfl, rfl⟩

end Grown

end WriteStats

/-! ### Counting over a run -/

namespace Store

variable {σ : Type} [Store σ] {stats : σ → WriteStats} {missing : Attempt → Bool}

/-- Each write is counted, but for a refusal that is `missing`. -/
structure Counts (stats : σ → WriteStats) (missing : Attempt → Bool) : Prop where
  mask : ∀ s slice mask, WriteStats.Grown (stats s) (stats (writeMask s slice mask).2)
    [.mask slice mask (writeMask s slice mask).1]
    ([Attempt.mask slice mask (writeMask s slice mask).1].countP missing)
  policies : ∀ s table, WriteStats.Grown (stats s) (stats (writePolicies s table).2)
    [.policies table (writePolicies s table).1]
    ([Attempt.policies table (writePolicies s table).1].countP missing)

/-- One call counts what it tries. -/
theorem Counts.called (h : Counts stats missing) (s : σ) (call : StoreCall) :
    WriteStats.Grown (stats s) (stats (Store.called s call)) (attempts s [call])
      ((attempts s [call]).countP missing) := by
  cases call with
  | writeMask slice mask => exact h.mask s slice mask
  | writePolicies table => exact h.policies s table
  | readMask _ | readMasks _ | hasMask _ | readPolicies => exact .refl _

/-- **A store that counts each write counts a run of calls.** -/
theorem Counts.afterCalls (h : Counts stats missing) (s : σ) (calls : List StoreCall) :
    WriteStats.Grown (stats s) (stats (Store.afterCalls s calls)) (attempts s calls)
      ((attempts s calls).countP missing) := by
  induction calls generalizing s with
  | nil => exact .refl _
  | cons call rest ih =>
      rw [attempts_cons, List.countP_append]
      exact (h.called s call).append (ih (Store.called s call))

end Store

/-! ### The two stores -/

theorem MemoryStore.counts : Counts MemoryStore.stats fun _ => false := by
  refine ⟨fun s slice mask => ?_, fun s table => ?_⟩
  · simp only [Store.writeMask, MemoryStore.writeMask]
    split
    · exact .counted_refusal rfl s.stats
    · exact .kept_mask s.stats slice mask
  · simp only [Store.writePolicies, MemoryStore.writePolicies]
    split
    · exact .counted_refusal rfl s.stats
    · exact .kept_policies s.stats table

namespace FileStore

/-- A write of the policies escapes the count exactly if the record cannot be read. -/
theorem unread_writePolicies_iff (s : FileStore) (table : PolicyTable) :
    (Attempt.policies table (s.writePolicies table).1).unread = true ↔
      ∃ e, s.readRecord s.layout.policyPath = .error e := by
  rcases s.writePolicies_cases table with ⟨record, files, hrecord, -, hwrite⟩ |
    ⟨record, cause, hrecord, hwrite⟩ | ⟨e, cause, hrecord, hwrite⟩
  · rw [hwrite, hrecord]
    exact iff_of_false Bool.false_ne_true (by simp)
  · rw [hwrite, hrecord]
    exact iff_of_false Bool.false_ne_true (by simp)
  · rw [hwrite]
    exact iff_of_true rfl ⟨e, hrecord⟩

theorem counts : Counts FileStore.stats Attempt.unread := by
  refine ⟨fun s slice mask => ?_, fun s table => ?_⟩
  · show WriteStats.Grown _ (s.writeMask slice mask).2.stats
      [.mask slice mask (s.writeMask slice mask).1]
      ([Attempt.mask slice mask (s.writeMask slice mask).1].countP Attempt.unread)
    rcases s.writeMask_cases slice mask with ⟨files, -, hwrite⟩ | ⟨cause, hwrite⟩
    · rw [hwrite]
      exact .kept_mask s.stats slice mask
    · rw [hwrite]
      exact .counted_refusal rfl s.stats
  · show WriteStats.Grown _ (s.writePolicies table).2.stats
      [.policies table (s.writePolicies table).1]
      ([Attempt.policies table (s.writePolicies table).1].countP Attempt.unread)
    rcases s.writePolicies_cases table with ⟨record, files, -, -, hwrite⟩ |
      ⟨record, cause, -, hwrite⟩ | ⟨e, cause, -, hwrite⟩
    · rw [hwrite]
      exact .kept_policies s.stats table
    · rw [hwrite]
      exact .counted_refusal rfl s.stats
    · rw [hwrite]
      exact .missed_refusal rfl s.stats

end FileStore

/-- **A store counts its writes**, over calls of any number and in any order.  In memory the count
grows by the masks and the policies that came on record and by every write that was refused.  In
files, whatever they hold, it does so but for one kind of refusal: a write of the policies that
finds a record that it cannot read is refused and not counted. -/
theorem writeStats_of_calls (calls : List StoreCall) :
    (∀ s : MemoryStore, WriteStats.Grown s.stats (afterCalls s calls).stats
      (Store.attempts s calls) 0) ∧
    (∀ s : FileStore, WriteStats.Grown s.stats (afterCalls s calls).stats
      (Store.attempts s calls) ((Store.attempts s calls).countP Attempt.unread)) ∧
    ∀ (s : FileStore) (table : PolicyTable),
      (Attempt.policies table (writePolicies s table).1).unread = true ↔
        ∃ e, s.readRecord s.layout.policyPath = .error e := by
  refine ⟨fun s => ?_, fun s => FileStore.counts.afterCalls s calls,
    FileStore.unread_writePolicies_iff⟩
  have hgrown := MemoryStore.counts.afterCalls s calls
  rwa [List.countP_false] at hgrown

/-- A directory stands where the policies should be: the write of the policies is refused, and no
refusal is counted. -/
theorem uncounted_refusal :
    let tree := (FileTree.empty.put [.text "r"] .directory).put
      [.text "r", .text "slice_scheduling_policy.txt"] .directory
    let s : FileStore := ⟨{ RecordLayout.standard with directory := ⟨"/r"⟩ }, .full 4, 2, tree, {}⟩
    let calls : List StoreCall := [.writePolicies (.ofList [(0, .waterfilling)])]
    (Store.attempts s calls).countP Attempt.refused = 1 ∧
      (afterCalls s calls).stats.failed = s.stats.failed := by
  decide +kernel

end RanSlicing
