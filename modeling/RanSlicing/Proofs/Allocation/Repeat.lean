/-
Asking for the same again.

A request that was carried out has left its masks on record, and what is asked anew is decided on
the records as they are now.  For an even split and for one mask that makes no difference.  For
ranges it could, because a slice for which nothing is asked keeps a mask with units and is given
one without: the second request finds the mask that the first one wrote.  But what was written for
such a slice has no units, and a slice that kept its mask was not written, so the test comes out
as it did (`decision_again`).  The store takes the masks again as well, and what they are read as
does not change.
-/
import RanSlicing.Proofs.Allocation.Refusal
import RanSlicing.Proofs.Store.Steady

namespace RanSlicing.Allocation

open Number (wordMax)
open Store

variable {σ : Type} [Store σ] {sound : σ → Prop} {fits : Nat → Prop} {pool : Pool} {tenants : Nat}

/-! ### The same decision -/

/-- Of the recorded masks it matters only which slices keep theirs. -/
theorem ranges_congr {requested : SliceMap Range} {persisted persisted' : SliceMap Mask}
    (h : ∀ slice < tenants,
      keeps requested persisted' slice = keeps requested persisted slice) :
    ranges requested pool tenants persisted' = ranges requested pool tenants persisted := by
  have hslices : (List.range tenants).filter (fun slice => !keeps requested persisted' slice) =
      (List.range tenants).filter fun slice => !keeps requested persisted slice := by
    refine List.filter_congr fun slice hslice => ?_
    rw [h slice (List.mem_range.1 hslice)]
  rw [ranges, ranges, hslices]

/-- A slice that was not written is on record as before. -/
theorem get?_recordedMasks_of_lookup_eq_none {s t : σ} {entries : List (Nat × Mask)}
    (hwritten : MasksWritten s t entries) {persisted persisted' : SliceMap Mask}
    (hpersisted : recordedMasks s tenants = .ok persisted)
    (hpersisted' : recordedMasks t tenants = .ok persisted') {slice : Nat}
    (hslice : slice < tenants) (hnone : entries.lookup slice = none) :
    persisted'.get? slice = persisted.get? slice := by
  have hread : readMask t slice = readMask s slice := by
    rw [hwritten.masks, hnone]
    rfl
  have hrecorded : hasMask? t slice = hasMask? s slice := by
    rw [hwritten.recorded, hnone]
    rfl
  rcases get?_recordedMasks hpersisted hslice with ⟨hbefore, hget⟩ | ⟨hbefore, mask, hmask, hget⟩
  · rcases get?_recordedMasks hpersisted' hslice with ⟨-, hget'⟩ | ⟨hafter, -⟩
    · rw [hget, hget']
    · cases hbefore.symm.trans (hrecorded.symm.trans hafter)
  · rcases get?_recordedMasks hpersisted' hslice with ⟨hafter, -⟩ | ⟨-, mask', hmask', hget'⟩
    · cases hbefore.symm.trans (hrecorded.symm.trans hafter)
    · rw [hread] at hmask'
      rw [hget, hget', Except.ok.inj (hmask'.symm.trans hmask)]

/-- A slice that was written has the mask on record that was written. -/
theorem get?_recordedMasks_of_lookup_eq_some {s t : σ} {entries : List (Nat × Mask)}
    (hwritten : MasksWritten s t entries) {persisted : SliceMap Mask}
    (hpersisted : recordedMasks t tenants = .ok persisted) {slice : Nat}
    (hslice : slice < tenants) {mask : Mask} (hsome : entries.lookup slice = some mask) :
    persisted.get? slice = some mask := by
  have hread : readMask t slice = .ok mask := by
    rw [hwritten.masks, hsome]
    rfl
  have hrecorded : hasMask? t slice = .ok true := by
    rw [hwritten.recorded, hsome]
    rfl
  rcases get?_recordedMasks hpersisted hslice with ⟨hnone, -⟩ | ⟨-, mask', hmask', hget⟩
  · cases hrecorded.symm.trans hnone
  · rw [hget, Except.ok.inj (hmask'.symm.trans hread)]

/-- A slice keeps its mask after ranges were given out exactly if it kept it then. -/
theorem keeps_again (hlimit : pool.limit ≤ pool.size) {s t : σ} {requested : SliceMap Range}
    {persisted persisted' written : SliceMap Mask}
    (hpersisted : recordedMasks s tenants = .ok persisted)
    (hranges : ranges requested pool tenants persisted = .ok written)
    (hwritten : MasksWritten s t written.entries)
    (hpersisted' : recordedMasks t tenants = .ok persisted') {slice : Nat}
    (hslice : slice < tenants) :
    keeps requested persisted' slice = keeps requested persisted slice := by
  have hspec := ranges_spec hlimit hranges slice
  cases hkeeps : keeps requested persisted slice with
  | true =>
      rw [if_neg (by simp [hkeeps])] at hspec
      have hsame :=
        get?_recordedMasks_of_lookup_eq_none hwritten hpersisted hpersisted' hslice hspec
      rw [← hkeeps, keeps, keeps, hsame]
  | false =>
      by_cases hnone : (asked requested slice).isNone = true
      · -- What was written for the slice has no units.
        rw [if_pos ⟨hslice, hkeeps⟩] at hspec
        obtain ⟨mask, hmask, -, hset⟩ := hspec
        have hget := get?_recordedMasks_of_lookup_eq_some hwritten hpersisted' hslice hmask
        have hempty : mask.isUnassigned = true := by
          refine Mask.isUnassigned_iff.2 fun unit => ?_
          rw [← Bool.not_eq_true, hset, holds_eq_false_of_isNone hnone]
          simp
        rw [keeps, hget]
        simp [hempty]
      · simp [keeps, hnone]

/-- **A request that was carried out is decided on in the same way again.** -/
theorem decision_again (hlimit : pool.limit ≤ pool.size) {s t : σ} {request : Request}
    {written : SliceMap Mask} (hdecision : decision pool tenants s request = .ok written)
    (hwritten : MasksWritten s t written.entries) :
    decision pool tenants t request = .ok written := by
  cases request with
  | equal => exact hdecision
  | full slice mask => exact hdecision
  | ranges requested =>
      obtain ⟨persisted, hpersisted, hranges⟩ := bind_eq_ok_iff.1 hdecision
      have hlistable : ∀ slice < tenants, Listable t slice := by
        intro slice hslice
        rw [Listable, Readable, hwritten.masks, hwritten.recorded]
        cases hlookup : written.entries.lookup slice with
        | some mask => exact .inr ⟨rfl, mask, rfl⟩
        | none =>
            refine (get?_recordedMasks hpersisted hslice).imp And.left ?_
            rintro ⟨hrecorded, mask, hmask, -⟩
            exact ⟨hrecorded, mask, hmask⟩
      obtain ⟨persisted', hpersisted'⟩ := exists_recordedMasks hlistable
      refine bind_eq_ok_iff.2 ⟨persisted', hpersisted', ?_⟩
      rw [ranges_congr fun slice hslice =>
        keeps_again hlimit hpersisted hranges hwritten hpersisted' hslice]
      exact hranges

/-! ### The same result -/

/-- What a request did that was carried out. -/
structure CarriedOut (stats : σ → WriteStats) (pool : Pool) (tenants : Nat) (request : Request)
    (s : σ) (written : SliceMap Mask) (t : σ) : Prop where
  /-- The masks of the answer are read, and of the other slices what was read before. -/
  masks : ∀ slice, readMask t slice = (written.get? slice).elim (readMask s slice) .ok
  policies : readPolicies t = readPolicies s
  /-- Each mask of the answer was counted as written. -/
  counted : (stats t).masks = (stats s).masks + written.size
  /-- The same request is carried out again, with the same answer, and no mask changes. -/
  again : ∃ u, apply pool tenants t request = (.ok written, u) ∧
    ∀ slice, readMask u slice = readMask t slice

/-- What a request comes to. -/
structure Effect (stats : σ → WriteStats) (pool : Pool) (tenants : Nat) (request : Request)
    (s : σ) : Prop where
  carriedOut : ∀ {written t}, apply pool tenants s request = (.ok written, t) →
    CarriedOut stats pool tenants request s written t
  /-- A request that is refused for its content leaves everything as it was. -/
  refused : ∀ {e t}, apply pool tenants s request = (.error e, t) →
    e.kind = .invalidRequest ∨ e.kind = .invalidMask ∨ e.kind = .configuration → t = s

theorem carriedOut_of_apply {stats : σ → WriteStats} {missing : Attempt → Bool}
    (laws : Laws sound fits) (steady : Steady sound) (counts : Counts stats missing)
    (hlimit : pool.limit ≤ pool.size) (hfits : fits pool.size) {request : Request} {s t : σ}
    (hs : sound s) {written : SliceMap Mask}
    (h : apply pool tenants s request = (.ok written, t)) :
    CarriedOut stats pool tenants request s written t := by
  rw [apply_eq_carryOut] at h
  obtain ⟨hdecision, hwrite⟩ := carryOut_eq_ok h
  have hfit : ∀ e ∈ written.entries, fits e.2.width := by
    intro e he
    rw [(fitting_decision hlimit s request written hdecision e he).2]
    exact hfits
  obtain ⟨hsound, hwritten⟩ := laws.writeMasks_accepted written.ascending hfit hs hwrite
  obtain ⟨u, hu⟩ := steady.writeMasks_again laws written.ascending hfit hs hwrite
  refine ⟨hwritten.masks, hwritten.policies, counts.masks_of_writeMasks hwrite, u, ?_, ?_⟩
  · rw [apply_eq_carryOut, decision_again hlimit hdecision hwritten,
      carryOut_of_accepted (by rw [hu]), hu]
  · intro slice
    obtain ⟨-, hwritten'⟩ := laws.writeMasks_accepted written.ascending hfit hsound hu
    rw [hwritten'.masks, hwritten.masks]
    cases written.entries.lookup slice <;> rfl

theorem effect_of_laws {stats : σ → WriteStats} {missing : Attempt → Bool}
    (laws : Laws sound fits) (steady : Steady sound) (counts : Counts stats missing)
    (hlimit : pool.limit ≤ pool.size) (hfits : fits pool.size) {s : σ} (hs : sound s)
    (tenants : Nat) (request : Request) : Effect stats pool tenants request s where
  carriedOut h := carriedOut_of_apply laws steady counts hlimit hfits hs h
  refused {e t} h hkind := by
    rw [apply_eq_carryOut] at h
    cases hdecision : decision pool tenants s request with
    | error e' =>
        rw [hdecision] at h
        exact (Prod.mk.inj h).2.symm
    | ok masks =>
        -- The content was accepted, so a write was refused.
        rw [hdecision, carryOut_ok] at h
        obtain ⟨hanswer, -⟩ := Prod.mk.inj h
        have hpersistence : e.kind = .persistence := by
          cases hwrite : writeMasks s masks.entries with
          | mk answer u =>
              cases answer with
              | ok _ =>
                  rw [hwrite] at hanswer
                  cases hanswer
              | error e' =>
                  rw [hwrite] at hanswer
                  rw [← Except.error.inj hanswer]
                  exact steady.refused_writeMasks hwrite
        rw [hpersistence] at hkind
        simp at hkind

/-- **A request does what it answers, only that, and nothing new when it is repeated.**  This holds
for any request on a store in memory, and on a store in files with the names that the radio stack
expects and a pool of the same width, whatever the files hold. -/
theorem effect_apply (hpool : pool.validate = .ok ()) (tenants : Nat) (request : Request) :
    (∀ s : MemoryStore, Effect MemoryStore.stats pool tenants request s) ∧
      ∀ s : FileStore, s.layout.maskPrefix = RecordLayout.standard.maskPrefix →
        s.layout.policyFile = RecordLayout.standard.policyFile → s.pool.size = pool.size →
          s.tenants ≤ wordMax → Effect FileStore.stats pool tenants request s := by
  have hlimit := Pool.limit_le_size hpool
  refine ⟨fun s => ?_, fun s hmask hpolicy hsize htenants => ?_⟩
  · exact effect_of_laws MemoryStore.laws MemoryStore.steady MemoryStore.counts hlimit trivial
      trivial tenants request
  · have hapart := RecordLayout.apart_of_standard_names hmask hpolicy
    exact effect_of_laws (FileStore.laws hapart s.pool htenants)
      (FileStore.steady hapart s.pool s.tenants) FileStore.counts hlimit hsize.symm
      ⟨rfl, rfl, rfl⟩ tenants request

/-- Of three slices the first is given a range, the second has two units and keeps them, and the
third has nothing: it is written without units, once and then again.  An even split writes all
three, one mask is written as it is given, and a mask of another width is refused. -/
theorem effect_apply_of_idle_slices :
    let tree := (FileTree.empty.put [.text "r"] .directory).put
      [.text "r", .text "slice_allocation_mask_tenant_1.txt"] (.file (.text "0011\n") 0o644)
    let pool : Pool := .full 4
    let s : FileStore := ⟨{ RecordLayout.standard with directory := ⟨"/r"⟩ }, pool, 3, tree, {}⟩
    let request : Request := .ranges (.ofList [(0, ⟨0, 1⟩)])
    let written : SliceMap Mask :=
      .ofList [(0, ⟨[true, true, false, false]⟩), (2, ⟨[false, false, false, false]⟩)]
    let t := (apply pool 3 s request).2
    let shares : SliceMap Mask := .ofList [(0, ⟨[true, true, false, false]⟩),
      (1, ⟨[false, false, true, false]⟩), (2, ⟨[false, false, false, true]⟩)]
    let split := (apply pool 3 s .equal).2
    let mask : Mask := ⟨[false, true, true, false]⟩
    let given := (apply pool 3 s (.full 1 mask)).2
    let refusal : Fault := .maskWidth "011" 3 4
    let refused := (apply pool 3 s (.full 1 ⟨[false, true, true]⟩)).2
    pool.validate = .ok () ∧ s.pool.size = pool.size ∧ s.tenants ≤ wordMax ∧
      (apply pool 3 s request = (.ok written, t) ∧
        CarriedOut FileStore.stats pool 3 request s written t) ∧
      (apply pool 3 s .equal = (.ok shares, split) ∧
        CarriedOut FileStore.stats pool 3 .equal s shares split) ∧
      (apply pool 3 s (.full 1 mask) = (.ok (.ofList [(1, mask)]), given) ∧
        CarriedOut FileStore.stats pool 3 (.full 1 mask) s (.ofList [(1, mask)]) given) ∧
      apply pool 3 s (.full 1 ⟨[false, true, true]⟩) = (.error refusal, refused) ∧
        refusal.kind = .invalidMask ∧ refused = s := by
  intro tree pool s request written t shares split mask given refusal refused
  have hpool : pool.validate = .ok () := rfl
  have htenants : s.tenants ≤ wordMax := by decide
  have heffect : ∀ request, Effect FileStore.stats pool 3 request s := fun request =>
    (effect_apply hpool 3 request).2 s rfl rfl rfl htenants
  have happly : apply pool 3 s request = (.ok written, t) := by decide +kernel
  have hsplit : apply pool 3 s .equal = (.ok shares, split) := by decide +kernel
  have hgiven : apply pool 3 s (.full 1 mask) = (.ok (.ofList [(1, mask)]), given) := by
    decide +kernel
  have hrefused : apply pool 3 s (.full 1 ⟨[false, true, true]⟩) = (.error refusal, refused) := by
    decide +kernel
  exact ⟨hpool, rfl, htenants, ⟨happly, (heffect _).carriedOut happly⟩,
    ⟨hsplit, (heffect _).carriedOut hsplit⟩, ⟨hgiven, (heffect _).carriedOut hgiven⟩,
    hrefused, rfl, (heffect _).refused hrefused (.inr (.inl rfl))⟩

end RanSlicing.Allocation
