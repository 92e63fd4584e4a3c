/-
Every user counts once, and in its own slice only.

One pass over the users collects them under their slices, each slice's in the order they came
(`grouped_get?_iff`), and a look adds up what was collected (`aggregate_eq_mapValues`).  So the
entry of a slice is a function of the list of its own users, and to leave that list as it is is just
what can happen to the users of other slices (`elsewhere_iff`).  No fact about numbers is used: two
entries are the same because they are made of the same lists.
-/
import Mathlib.Algebra.BigOperators.Group.List.Lemmas
import Mathlib.Algebra.GroupWithZero.Nat
import RanSlicing.Proofs.Telemetry.Window

namespace RanSlicing.MetricsWindow

/-- The users of a look, collected under their slices in one pass. -/
def grouped (w : MetricsWindow) : SliceMap (List UserRecord) :=
  .collect (w.users.map fun u => (u.slice, u))

theorem mem_usersOf_iff {w : MetricsWindow} {slice : Nat} {u : UserRecord} :
    u ∈ w.usersOf slice ↔ u ∈ w.users ∧ u.slice = slice := by
  simp [usersOf]

theorem usersOf_ne_nil_iff {w : MetricsWindow} {slice : Nat} :
    w.usersOf slice ≠ [] ↔ slice ∈ w.users.map (·.slice) := by
  rw [Ne, List.eq_nil_iff_forall_not_mem, List.mem_map]
  simp only [mem_usersOf_iff, not_forall, not_not]

/-- The slices that were collected are those with users, and each has its own in their order. -/
theorem grouped_get?_iff {w : MetricsWindow} {slice : Nat} {users : List UserRecord} :
    w.grouped.get? slice = some users ↔ users = w.usersOf slice ∧ users ≠ [] := by
  have hvalues : SortedMap.valuesAt slice (w.users.map fun u => (u.slice, u)) = w.usersOf slice := by
    rw [SortedMap.valuesAt, List.filterMap_map, usersOf, ← List.filterMap_eq_filter]
    refine List.filterMap_congr fun u _ => ?_
    by_cases hu : u.slice = slice <;> simp [Option.guard, hu]
  rw [← hvalues]
  exact SortedMap.collects_collect _ slice users

/-- **A look is the averages of what one pass collects.** -/
theorem aggregate_eq_mapValues (w : MetricsWindow) :
    w.aggregate = w.grouped.mapValues fun _ users => .ofUsers users := by
  refine SortedMap.ext_get? fun slice => ?_
  rw [get?_aggregate, SortedMap.get?_mapValues]
  split
  · rename_i hslice
    rw [grouped_get?_iff.2 ⟨rfl, usersOf_ne_nil_iff.2 hslice⟩]
    rfl
  · rename_i hslice
    have hnone : w.grouped.get? slice = none := by
      rw [Option.eq_none_iff_forall_ne_some]
      intro users husers
      obtain ⟨rfl, hne⟩ := grouped_get?_iff.1 husers
      exact hslice (usersOf_ne_nil_iff.1 hne)
    rw [hnone]
    rfl

theorem get?_aggregate_eq_some_iff {w : MetricsWindow} {slice : Nat} {sample : SliceSample} :
    w.aggregate.get? slice = some sample ↔
      sample = .ofUsers (w.usersOf slice) ∧ ∃ u ∈ w.users, u.slice = slice := by
  rw [get?_aggregate, ← List.mem_map]
  split
  · rename_i hslice
    rw [and_iff_left hslice, Option.some.injEq, eq_comm]
  · rename_i hslice
    exact ⟨fun h => absurd h (by simp), fun h => absurd h.2 hslice⟩

theorem mem_keys_aggregate_iff {w : MetricsWindow} {slice : Nat} :
    slice ∈ w.aggregate.keys ↔ ∃ u ∈ w.users, u.slice = slice := by
  rw [SortedMap.mem_keys_iff]
  simp only [get?_aggregate_eq_some_iff, exists_eq_left]

/-! ### Counting -/

theorem userCount_eq {w : MetricsWindow} {slice : Nat} {sample : SliceSample}
    (h : w.aggregate.get? slice = some sample) : sample.userCount = (w.usersOf slice).length := by
  obtain ⟨rfl, -⟩ := get?_aggregate_eq_some_iff.1 h
  rfl

/-- The slices of a look are those of its users, each once. -/
theorem keys_aggregate_perm (w : MetricsWindow) :
    w.aggregate.keys.Perm (w.users.map (·.slice)).dedup := by
  rw [List.perm_ext_iff_of_nodup (SortedMap.nodup_keys _) (List.nodup_dedup _)]
  intro slice
  rw [mem_keys_aggregate_iff, List.mem_dedup, List.mem_map]

/-- **The slices' counts add up to the number of users.** -/
theorem sum_userCount (w : MetricsWindow) :
    (w.aggregate.entries.map (·.2.userCount)).sum = w.users.length := by
  have hcount : ∀ e ∈ w.aggregate.entries,
      e.2.userCount = (w.users.map (·.slice)).count e.1 := by
    intro e he
    rw [userCount_eq (SortedMap.mem_entries_iff.1 he), usersOf, ← List.countP_eq_length_filter,
      List.count, List.countP_map]
    rfl
  calc (w.aggregate.entries.map (·.2.userCount)).sum
      = (w.aggregate.keys.map fun slice => (w.users.map (·.slice)).count slice).sum := by
        rw [SortedMap.keys, List.map_map, List.map_congr_left hcount]
        rfl
    _ = ((w.users.map (·.slice)).dedup.map fun slice =>
          (w.users.map (·.slice)).count slice).sum := (w.keys_aggregate_perm.map _).sum_eq
    _ = w.users.length := by
        rw [List.sum_map_count_dedup_eq_length, List.length_map]

/-! ### Users of other slices -/

/-- Users of other slices join, leave and change places, with each other and with those of the
slice, any number of times. -/
inductive Elsewhere (slice : Nat) (users : List UserRecord) : List UserRecord → Prop
  | start : Elsewhere slice users users
  | join {front back : List UserRecord} {u : UserRecord} (h : Elsewhere slice users (front ++ back))
      (hu : u.slice ≠ slice) : Elsewhere slice users (front ++ u :: back)
  | leave {front back : List UserRecord} {u : UserRecord}
      (h : Elsewhere slice users (front ++ u :: back)) (hu : u.slice ≠ slice) :
      Elsewhere slice users (front ++ back)
  | swap {front back : List UserRecord} {u v : UserRecord}
      (h : Elsewhere slice users (front ++ u :: v :: back))
      (huv : u.slice ≠ slice ∨ v.slice ≠ slice) : Elsewhere slice users (front ++ v :: u :: back)

/-- The slice keeps its users in their order. -/
theorem Elsewhere.usersOf_eq {slice : Nat} {users users' : List UserRecord}
    (h : Elsewhere slice users users') : (mk users').usersOf slice = (mk users).usersOf slice := by
  induction h with
  | start => rfl
  | join _ hu ih =>
      rw [← ih]
      simp [usersOf, hu]
  | leave _ hu ih =>
      rw [← ih]
      simp [usersOf, hu]
  | swap _ huv ih =>
      rw [← ih]
      rcases huv with hu | hv
      · simp [usersOf, List.filter_cons, hu]
      · simp [usersOf, List.filter_cons, hv]

theorem usersOf_cons_self {u : UserRecord} {slice : Nat} (h : u.slice = slice)
    (rest : List UserRecord) :
    (mk (u :: rest)).usersOf slice = [u] ++ (mk rest).usersOf slice := by
  simp [usersOf, h]

theorem usersOf_cons_ne {u : UserRecord} {slice : Nat} (h : u.slice ≠ slice)
    (rest : List UserRecord) : (mk (u :: rest)).usersOf slice = (mk rest).usersOf slice := by
  simp [usersOf, h]

/-- The users of other slices may all leave. -/
private theorem Elsewhere.leave_all {slice : Nat} {users : List UserRecord} :
    ∀ {back front : List UserRecord}, Elsewhere slice users (front ++ back) →
      Elsewhere slice users (front ++ (mk back).usersOf slice) := by
  intro back
  induction back with
  | nil => intro front h; exact h
  | cons u rest ih =>
      intro front h
      by_cases hu : u.slice = slice
      · rw [usersOf_cons_self hu, ← List.append_assoc]
        refine ih ?_
        rwa [List.append_assoc]
      · rw [usersOf_cons_ne hu]
        exact ih (h.leave hu)

/-- They may join again wherever they were. -/
private theorem Elsewhere.join_all {slice : Nat} {users : List UserRecord} :
    ∀ {back front : List UserRecord}, Elsewhere slice users (front ++ (mk back).usersOf slice) →
      Elsewhere slice users (front ++ back) := by
  intro back
  induction back with
  | nil => intro front h; exact h
  | cons u rest ih =>
      intro front h
      by_cases hu : u.slice = slice
      · rw [usersOf_cons_self hu, ← List.append_assoc] at h
        have hrest := ih h
        rwa [List.append_assoc] at hrest
      · rw [usersOf_cons_ne hu] at h
        exact (ih h).join hu

/-- **What can happen elsewhere is all that leaves the slice its users in their order.** -/
theorem elsewhere_iff {slice : Nat} {users users' : List UserRecord} :
    Elsewhere slice users users' ↔ (mk users').usersOf slice = (mk users).usersOf slice := by
  refine ⟨Elsewhere.usersOf_eq, fun h => ?_⟩
  have hstart : Elsewhere slice users ([] ++ users) := .start
  have hempty := hstart.leave_all
  rw [← h] at hempty
  exact hempty.join_all

/-- Two looks with the same users of a slice have the same entry for it. -/
theorem get?_aggregate_congr {w w' : MetricsWindow} {slice : Nat}
    (h : w'.usersOf slice = w.usersOf slice) : w'.aggregate.get? slice = w.aggregate.get? slice := by
  rw [get?_aggregate, get?_aggregate, h]
  simp only [← usersOf_ne_nil_iff, h]

theorem usersOf_usersOf (w : MetricsWindow) (slice : Nat) :
    (mk (w.usersOf slice)).usersOf slice = w.usersOf slice := by
  simp [usersOf]

/-- A look goes slice by slice and leaves no user out. -/
structure BySlice (w : MetricsWindow) : Prop where
  /-- The averages are those of the users that one pass collects under their slices. -/
  onePass : w.aggregate = w.grouped.mapValues fun _ users => .ofUsers users
  /-- The slices are those that a user is attached to. -/
  slices : ∀ slice, slice ∈ w.aggregate.keys ↔ ∃ u ∈ w.users, u.slice = slice
  /-- Each slice counts its own users. -/
  counts : ∀ slice sample, w.aggregate.get? slice = some sample →
    sample.userCount = (w.usersOf slice).length
  /-- The counts add up to the number of users. -/
  total : (w.aggregate.entries.map (·.2.userCount)).sum = w.users.length
  /-- A metric has an average exactly if a user of the slice has a sample of it. -/
  metrics : ∀ slice sample metric, w.aggregate.get? slice = some sample →
    ((sample.averages.get? metric).isSome ↔ ∃ u ∈ w.users, u.slice = slice ∧
      ∃ values, u.samples.get? metric = some values ∧ values ≠ [])
  /-- The users of the slice alone give the slice the same entry. -/
  alone : ∀ slice, (mk (w.usersOf slice)).aggregate.get? slice = w.aggregate.get? slice
  /-- What happens to the users of other slices does not change it. -/
  elsewhere : ∀ slice users, Elsewhere slice w.users users →
    (mk users).aggregate.get? slice = w.aggregate.get? slice

/-- **Every look goes slice by slice and leaves no user out.** -/
theorem bySlice (w : MetricsWindow) : w.BySlice where
  onePass := w.aggregate_eq_mapValues
  slices _ := mem_keys_aggregate_iff
  counts _ _ := userCount_eq
  total := w.sum_userCount
  metrics _ _ metric h := average_isSome_iff h metric
  alone slice := get?_aggregate_congr (w.usersOf_usersOf slice)
  elsewhere _ _ h := get?_aggregate_congr h.usersOf_eq

/-- Two users of slice 1 around one of slice 0.  The second of them has a metric without samples, so
that it counts as a user and not in the average, and the user of slice 0 may leave. -/
theorem bySlice_of_mixed_users :
    let first : UserRecord := ⟨"first", 1, .ofList [("load", [1.0, 3.0])]⟩
    let other : UserRecord := ⟨"other", 0, .ofList [("load", [5.0])]⟩
    let second : UserRecord := ⟨"second", 1, .ofList [("load", []), ("rate", [7.0])]⟩
    let w : MetricsWindow := ⟨[first, other, second]⟩
    ∃ sample, w.aggregate.get? 1 = some sample ∧ sample.userCount = 2 ∧
      sample.averages.get? "load" = some 2.0 ∧ w.aggregate.keys = [0, 1] ∧
      (mk [first, second]).aggregate.get? 1 = some sample := by
  intro first other second w
  have hsample : w.aggregate.get? 1 = some (.ofUsers [first, second]) :=
    get?_aggregate_eq_some_iff.2 ⟨rfl, first, by simp [w], rfl⟩
  refine ⟨_, hsample, w.bySlice.counts 1 _ hsample, by decide +kernel, by decide +kernel, ?_⟩
  have hstart : Elsewhere 1 w.users ([first] ++ other :: [second]) := .start
  rw [← hsample]
  exact w.bySlice.elsewhere 1 [first, second] (hstart.leave (by decide))

end RanSlicing.MetricsWindow
