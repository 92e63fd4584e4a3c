/-
A dry run decides like a real one.

A dry run keeps its records in memory, the real one in files, and the two do differ: masks pass
through text in one of them only, and before the first policy is switched the one has no policies
on record where the other reads round-robin for every slice.  `Mirrors` says what they have in
common while nothing stands in the way of the files, and that it is a lockstep (`lockstep`) is all
that the operations need.

That no write is refused is no assumption.  It follows from how the files are found at the start:
the directory exists, and the records in it are missing (`Bare`).
-/
import RanSlicing.Proofs.Control.Lockstep
import RanSlicing.Proofs.FileTree.Seat
import RanSlicing.Proofs.Settings
import RanSlicing.Proofs.Store.Files

namespace RanSlicing

open Store
open Number (wordMax)

/-! ### Calls on a cell -/

/-- What can be asked of a cell: an allocation, a move of one slice, and a round of one of its
controllers. -/
inductive Call where
  | request (request : Request)
  | adjust (slice target : Nat)
  | evaluate (snapshot : Snapshot)
  | rotate

/-- What a call is answered with. -/
inductive Answer where
  | masks (answer : Except Fault (SliceMap Mask))
  | adjustment (answer : Except Fault Adjustment)
  | report (report : Report)

/-- A store and the controllers that act on it. -/
structure Cell (σ : Type) where
  store : σ
  heuristic : Heuristic
  rotation : Rotation

namespace Cell

/-- The cell before its first call. -/
def start {σ : Type} (settings : SlicingSettings) (heuristic : HeuristicSettings)
    (allocations : List (SliceMap Range)) (store : σ) : Cell σ where
  store
  heuristic := .ofSettings settings.pool settings.tenants heuristic
  rotation := .start settings.pool settings.tenants allocations

variable {σ τ : Type} [Store σ] [Store τ]

/-- Carries out one call. -/
def call (pool : Pool) (tenants : Nat) (c : Cell σ) : Call → Answer × Cell σ
  | .request request =>
    let (answer, store) := Allocation.apply pool tenants c.store request
    (.masks answer, { c with store })
  | .adjust slice target =>
    let (answer, store) := Allocation.adjustSlice pool tenants c.store slice target
    (.adjustment answer, { c with store })
  | .evaluate snapshot =>
    let (report, heuristic, store) := c.heuristic.evaluate c.store snapshot
    (.report report, { c with store, heuristic })
  | .rotate =>
    let (report, rotation, store) := c.rotation.step c.store
    (.report report, { c with store, rotation })

/-- Carries out calls one after the other. -/
def run (pool : Pool) (tenants : Nat) (c : Cell σ) : List Call → List Answer × Cell σ
  | [] => ([], c)
  | next :: rest =>
    let (answer, c) := c.call pool tenants next
    let (answers, c) := c.run pool tenants rest
    (answer :: answers, c)

/-- Two cells have related stores and the same controllers, set up for the pool. -/
structure Paired (pool : Pool) (tenants : Nat) (R : σ → τ → Prop) (c : Cell σ) (d : Cell τ) :
    Prop where
  stores : R c.store d.store
  heuristic : d.heuristic = c.heuristic
  rotation : d.rotation = c.rotation
  heuristicPool : c.heuristic.pool = pool
  heuristicTenants : c.heuristic.tenants = tenants
  rotationPool : c.rotation.pool = pool
  rotationTenants : c.rotation.tenants = tenants

variable {pool : Pool} {tenants : Nat} {R : σ → τ → Prop} {T : PolicyTable → PolicyTable → Prop}
  {c : Cell σ} {d : Cell τ}

theorem call_alike (lockstep : Lockstep pool tenants R T) (hlimit : pool.limit ≤ pool.size)
    (h : Paired pool tenants R c d) (next : Call) :
    Alike (Paired pool tenants R) (c.call pool tenants next) (d.call pool tenants next) := by
  obtain ⟨hstores, hheuristic, hrotation, hpool, htenants, hpool', htenants'⟩ := h
  cases next with
  | request request =>
      obtain ⟨answer, s, t, hs, ht, hst⟩ :=
        (lockstep.apply_alike hlimit request hstores).exists_eq
      simp only [call, hs, ht]
      exact ⟨rfl, hst, hheuristic, hrotation, hpool, htenants, hpool', htenants'⟩
  | adjust slice target =>
      obtain ⟨answer, s, t, hs, ht, hst⟩ :=
        (lockstep.adjustSlice_alike slice target hstores).exists_eq
      simp only [call, hs, ht]
      exact ⟨rfl, hst, hheuristic, hrotation, hpool, htenants, hpool', htenants'⟩
  | evaluate snapshot =>
      have hlockstep : Lockstep c.heuristic.pool c.heuristic.tenants R T := by
        rw [hpool, htenants]
        exact lockstep
      obtain ⟨hreport, hst⟩ := Heuristic.evaluate_alike hlockstep snapshot hstores
      simp only [call, hheuristic, hreport, Heuristic.next_evaluate]
      exact ⟨rfl, hst, rfl, hrotation, hpool, htenants, hpool', htenants'⟩
  | rotate =>
      have hlockstep : Lockstep c.rotation.pool c.rotation.tenants R T := by
        rw [hpool', htenants']
        exact lockstep
      obtain ⟨hreport, hst⟩ :=
        Rotation.step_alike hlockstep (by rw [hpool']; exact hlimit) hstores
      simp only [call, hrotation, hreport, Rotation.cycle_step]
      exact ⟨rfl, hst, hheuristic, rfl, hpool, htenants, hpool', htenants'⟩

/-- **Calls are answered alike**, and leave cells behind that go on to be. -/
theorem run_alike (lockstep : Lockstep pool tenants R T) (hlimit : pool.limit ≤ pool.size)
    (calls : List Call) (h : Paired pool tenants R c d) :
    Alike (Paired pool tenants R) (c.run pool tenants calls) (d.run pool tenants calls) := by
  induction calls generalizing c d with
  | nil => exact ⟨rfl, h⟩
  | cons next rest ih =>
      obtain ⟨answer, c', d', hc, hd, hpaired⟩ := (call_alike lockstep hlimit h next).exists_eq
      obtain ⟨answers, c'', d'', hc', hd', hpaired'⟩ := (ih hpaired).exists_eq
      simp only [run, hc, hd, hc', hd']
      exact ⟨rfl, hpaired'⟩

end Cell

/-! ### Memory and files -/

/-- The table `q` has for every slice below `tenants` the policy that is in force in `p`, and
nothing else. -/
def Completes (tenants : Nat) (p q : PolicyTable) : Prop :=
  ∀ slice, q.get? slice = if slice < tenants then some (p.inForce slice) else none

namespace Completes

variable {tenants : Nat} {p q : PolicyTable}

theorem inForce_eq (h : Completes tenants p q) {slice : Nat} (hslice : slice < tenants) :
    q.inForce slice = p.inForce slice := by
  rw [PolicyTable.inForce, h slice, if_pos hslice]
  rfl

theorem insert (h : Completes tenants p q) {slice : Nat} (hslice : slice < tenants)
    (policy : Policy) : Completes tenants (p.insert slice policy) (q.insert slice policy) := by
  intro other
  by_cases heq : other = slice
  · subst heq
    rw [SortedMap.get?_insert_self, if_pos hslice, PolicyTable.inForce,
      SortedMap.get?_insert_self]
    rfl
  · rw [SortedMap.get?_insert_ne _ _ heq, h other, PolicyTable.inForce, PolicyTable.inForce,
      SortedMap.get?_insert_ne _ _ heq]

theorem lt_of_mem_keys (h : Completes tenants p q) {slice : Nat} (hslice : slice ∈ q.keys) :
    slice < tenants := by
  obtain ⟨policy, hpolicy⟩ := SortedMap.mem_keys_iff.1 hslice
  rw [h slice] at hpolicy
  by_contra hge
  rw [if_neg hge] at hpolicy
  simp at hpolicy

/-- A table that completes another one has all slices that any such table has. -/
theorem keeps {p' q' : PolicyTable} (h : Completes tenants p q) (h' : Completes tenants p' q')
    (slice : Nat) (hslice : (q.get? slice).isSome) : (q'.get? slice).isSome := by
  rw [h slice] at hslice
  rw [h' slice]
  split at hslice
  · rename_i hlt
    rw [if_pos hlt]
    rfl
  · exact Bool.noConfusion hslice

theorem uniform (tenants : Nat) :
    Completes tenants .empty (PolicyTable.uniform tenants .roundRobin) := by
  intro slice
  rw [PolicyRecord.get?_uniform]
  rfl

end Completes

/-- A store in memory and one in files have the same records, and nothing stands in the way of
the files. -/
structure Mirrors (layout : RecordLayout) (pool : Pool) (tenants : Nat) (home : Location)
    (m : MemoryStore) (f : FileStore) : Prop where
  accepting : m.rejecting = false
  setUp : f.SetUp layout pool tenants
  masks : ∀ slice < tenants, Store.readMask f slice = Store.readMask m slice
  recorded : ∀ slice, Store.hasMask? f slice = Store.hasMask? m slice
  policies : ∃ q, Store.readPolicies f = .ok q ∧ Completes tenants (m.policies.getD .empty) q
  maskSeat : ∀ slice < tenants, f.files.Seat layout.directory home (layout.maskName slice)
  policySeat : f.files.Seat layout.directory home layout.policyFile

namespace Mirrors

variable {layout : RecordLayout} {pool : Pool} {tenants : Nat} {home : Location}
  {m : MemoryStore} {f : FileStore}

theorem writeMask_alike (hapart : layout.Apart) (h : Mirrors layout pool tenants home m f)
    {slice : Nat} (hslice : slice < tenants) {mask : Mask} (hwidth : mask.width = pool.size) :
    Alike (Mirrors layout pool tenants home) (Store.writeMask m slice mask)
      (Store.writeMask f slice mask) := by
  obtain ⟨rfl, rfl, rfl⟩ := h.setUp
  have hname := RecordLayout.isName_maskName hapart.maskPlain slice
  have hreplace := (h.maskSeat slice hslice).replaceText hname (mask.text ++ "\n")
  obtain ⟨stats, hm⟩ := MemoryStore.writeMask_of_not_rejecting h.accepting slice mask
  obtain ⟨stats', hf⟩ := FileStore.writeMask_of_replaceText hreplace
  have hwritten := MemoryStore.masksWritten_insert m slice mask stats
  have hwritten' := FileStore.masksWritten_of_replaceText hapart hwidth hreplace stats'
  rw [hm]
  show Alike _ _ (f.writeMask slice mask)
  rw [hf]
  refine ⟨rfl, h.accepting, ⟨rfl, rfl, rfl⟩, fun other hother => ?_, fun other => ?_, ?_,
    fun other hother => (h.maskSeat other hother).put (h.maskSeat slice hslice).free _ _,
    h.policySeat.put (h.maskSeat slice hslice).free _ _⟩
  · rw [hwritten.masks, hwritten'.masks, h.masks other hother]
  · rw [hwritten.recorded, hwritten'.recorded, h.recorded]
  · rw [hwritten'.policies]
    exact h.policies

theorem writePolicies_alike (hapart : layout.Apart) (htenants : tenants ≤ wordMax)
    (h : Mirrors layout pool tenants home m f) {p q : PolicyTable}
    (hpq : Completes tenants p q) :
    Alike (Mirrors layout pool tenants home) (Store.writePolicies m p)
      (Store.writePolicies f q) := by
  obtain ⟨rfl, rfl, rfl⟩ := h.setUp
  obtain ⟨old, hread, hold⟩ := h.policies
  obtain ⟨record, hrecord, -⟩ := FileStore.readPolicies_eq_ok hread
  have hreplace := h.policySeat.replaceText hapart.policyName
    (PolicyRecord.update (record.getD "") q)
  obtain ⟨stats, hm⟩ := MemoryStore.writePolicies_of_not_rejecting h.accepting p
  obtain ⟨stats', hf⟩ := FileStore.writePolicies_of_replaceText hrecord hreplace
  have hwords : ∀ slice ∈ q.keys, slice ≤ wordMax := fun slice hslice =>
    Nat.le_trans (Nat.le_of_lt (hpq.lt_of_mem_keys hslice)) htenants
  have hback := FileStore.readPolicies_of_extends hread hwords (hold.keeps hpq) hf
  have hmasks := FileStore.masks_of_replaceText hapart hreplace stats'
  rw [hm]
  show Alike _ _ (f.writePolicies q)
  rw [hf]
  refine ⟨rfl, h.accepting, ⟨rfl, rfl, rfl⟩, fun slice hslice => ?_, fun slice => ?_,
    ⟨q, hback, hpq⟩,
    fun slice hslice => (h.maskSeat slice hslice).put h.policySeat.free _ _,
    h.policySeat.put h.policySeat.free _ _⟩
  · exact (hmasks slice).1.trans (h.masks slice hslice)
  · exact (hmasks slice).2.trans (h.recorded slice)

/-- **Memory and files go in lockstep.** -/
theorem lockstep (hapart : layout.Apart) (htenants : tenants ≤ wordMax) :
    Lockstep pool tenants (Mirrors layout pool tenants home) (Completes tenants) where
  readMask := by
    intro m f h slice hslice
    have hread := h.masks slice hslice
    refine ⟨m.readMask slice, rfl, hread, ?_⟩
    rw [← h.setUp.pool]
    exact FileStore.width_of_readMask hread
  hasMask? h slice := h.recorded slice
  writeMask h _ hslice _ hwidth := h.writeMask_alike hapart hslice hwidth
  readPolicies := by
    intro m f h
    obtain ⟨q, hq, hpq⟩ := h.policies
    exact ⟨_, q, rfl, hq, hpq⟩
  writePolicies := by
    intro m f h p q hpq
    exact h.writePolicies_alike hapart htenants hpq
  inForce h _ hslice := h.inForce_eq hslice
  insert h _ hslice policy := h.insert hslice policy

end Mirrors

/-! ### The start -/

/-- How a directory is found before the first record: it exists, and no record is in it. -/
structure Bare (layout : RecordLayout) (tenants : Nat) (tree : FileTree) : Prop where
  directory : tree.isDirectory layout.directory = true
  noMask : ∀ slice < tenants, tree.readText (layout.maskPath slice) = .error .notFound
  noPolicies : tree.readText layout.policyPath = .error .notFound
  noFile : ∀ slice, tree.isFile (layout.maskPath slice) = false

theorem Bare.mirrors {layout : RecordLayout} (hapart : layout.Apart) {pool : Pool} {tenants : Nat}
    {tree : FileTree} (h : Bare layout tenants tree) :
    ∃ home, Mirrors layout pool tenants home (.empty pool.size)
      ⟨layout, pool, tenants, tree, {}⟩ := by
  obtain ⟨home, hhome⟩ : ∃ home, tree.locateDirectory layout.directory = .ok home := by
    have hdirectory := h.directory
    unfold FileTree.isDirectory at hdirectory
    split at hdirectory
    · exact Bool.noConfusion hdirectory
    · rename_i home hhome
      exact ⟨home, hhome⟩
  refine ⟨home, rfl, ⟨rfl, rfl, rfl⟩, fun slice hslice => ?_, fun slice => ?_,
    ⟨.uniform tenants .roundRobin, ?_, .uniform tenants⟩, fun slice hslice => ?_, ?_⟩
  · show FileStore.readMask _ _ = _
    simp only [FileStore.readMask, FileStore.readRecord, h.noMask slice hslice]
    rfl
  · exact congrArg Except.ok (h.noFile slice)
  · show FileStore.readPolicies _ = _
    simp only [FileStore.readPolicies, FileStore.readRecord, h.noPolicies]
    rfl
  · exact FileTree.seat_of_notFound (RecordLayout.isName_maskName hapart.maskPlain slice) hhome
      (h.noMask slice hslice)
  · exact FileTree.seat_of_notFound hapart.policyName hhome h.noPolicies

theorem SlicingSettings.of_validate {settings : SlicingSettings}
    (h : settings.validate = .ok ()) :
    settings.tenants ≤ mostTenants ∧ settings.pool.validate = .ok () :=
  ⟨(checked_of_validate h).most, (checked_of_validate h).pool⟩

/-- **A dry run decides like the real one.**  Whatever is asked of a cell whose records are in
memory and of one whose records are in a bare directory under the names that the radio stack
expects, the two give the same answers, and after each of them they read the same masks, have a
record for the same slices, and have the same policies in force. -/
theorem dryRun_alike {settings : SlicingSettings} (hvalid : settings.validate = .ok ())
    (hmask : settings.records.maskPrefix = RecordLayout.standard.maskPrefix)
    (hpolicy : settings.records.policyFile = RecordLayout.standard.policyFile)
    {tree : FileTree} (hbare : Bare settings.records settings.tenants tree)
    (heuristic : HeuristicSettings) (allocations : List (SliceMap Range)) (calls : List Call) :
    let m : MemoryStore := .empty settings.pool.size
    let f : FileStore := ⟨settings.records, settings.pool, settings.tenants, tree, {}⟩
    let dry :=
      (Cell.start settings heuristic allocations m).run settings.pool settings.tenants calls
    let real :=
      (Cell.start settings heuristic allocations f).run settings.pool settings.tenants calls
    real.1 = dry.1 ∧
      readMasks real.2.store settings.tenants = readMasks dry.2.store settings.tenants ∧
      (∀ slice, Store.hasMask real.2.store slice = Store.hasMask dry.2.store slice) ∧
      ∃ p q, Store.readPolicies dry.2.store = .ok p ∧ Store.readPolicies real.2.store = .ok q ∧
        ∀ slice < settings.tenants, q.inForce slice = p.inForce slice := by
  intro m f dry real
  have hapart := RecordLayout.apart_of_standard_names hmask hpolicy
  obtain ⟨htenants, hpool⟩ := SlicingSettings.of_validate hvalid
  have hwords : settings.tenants ≤ wordMax := Nat.le_trans htenants (by decide)
  obtain ⟨home, hmirrors⟩ := hbare.mirrors hapart
  have hlockstep : Lockstep settings.pool settings.tenants
      (Mirrors settings.records settings.pool settings.tenants home)
      (Completes settings.tenants) := Mirrors.lockstep hapart hwords
  have hpaired : Cell.Paired settings.pool settings.tenants
      (Mirrors settings.records settings.pool settings.tenants home)
      (Cell.start settings heuristic allocations m)
      (Cell.start settings heuristic allocations f) :=
    ⟨hmirrors, rfl, rfl, rfl, rfl, rfl, rfl⟩
  obtain ⟨hanswers, hafter⟩ :=
    Cell.run_alike hlockstep (Pool.limit_le_size hpool) calls hpaired
  obtain ⟨masks, hdry, hreal, -, -⟩ := hlockstep.readMasks_eq hafter.stores
  obtain ⟨p, q, hp, hq, hpq⟩ := hlockstep.readPolicies hafter.stores
  exact ⟨hanswers.symm, hreal.trans hdry.symm, hlockstep.hasMask_eq hafter.stores,
    p, q, hp, hq, fun slice hslice => hlockstep.inForce hpq slice hslice⟩

/-- Two slices of four units whose records are kept in the directory `/r`. -/
theorem dryRun_alike_in_a_small_cell :
    let records : RecordLayout := { RecordLayout.standard with directory := ⟨"/r"⟩ }
    let settings : SlicingSettings := ⟨2, .full 4, records⟩
    let tree : FileTree := FileTree.empty.put [.text "r"] .directory
    let calls : List Call :=
      [.request .equal, .adjust 0 1, .evaluate .empty, .rotate, .request (.full 2 default)]
    let allocations : List (SliceMap Range) := [.ofList [(0, ⟨0, 0⟩), (1, ⟨1, 3⟩)]]
    let m : MemoryStore := .empty 4
    let f : FileStore := ⟨records, .full 4, 2, tree, {}⟩
    settings.validate = .ok () ∧ Bare records 2 tree ∧
      ((Cell.start settings .standard allocations f).run (.full 4) 2 calls).1
        = ((Cell.start settings .standard allocations m).run (.full 4) 2 calls).1 := by
  intro records settings tree calls allocations m f
  have hvalid : settings.validate = .ok () := by decide +kernel
  have hbare : Bare records 2 tree := by
    refine ⟨by decide +kernel, by decide +kernel, by decide +kernel, fun slice => ?_⟩
    refine FileTree.isFile_eq_false_of_directories (fun e he => ?_) _
    rw [List.mem_singleton.1 he]
  exact ⟨hvalid, hbare,
    (dryRun_alike hvalid rfl rfl hbare .standard allocations calls).1⟩

end RanSlicing
