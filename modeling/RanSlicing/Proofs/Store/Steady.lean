/-
Stores that accept again what they accepted.

The laws of a store leave open which writes it accepts, and one that keeps them may take a mask
once and refuse it the next time.  The two stores of a cell do not: whether a slice takes a mask
depends neither on the mask nor on the masks that other slices took before (`Steady`).  A list of
masks that was accepted is therefore accepted again, and each of them is counted.

It also says when nothing that is decided on can fail: in a store that takes a mask for every slice
of the cell and can read what it has, every write is accepted and leaves such a store (`Willing`).
-/
import RanSlicing.Proofs.FileTree.Seat
import RanSlicing.Proofs.Store.Memory
import RanSlicing.Proofs.Store.WriteStats

namespace RanSlicing

open Store

namespace Store

variable {σ : Type} [Store σ]

/-- Every mask is accepted for the slice. -/
def Takes (s : σ) (slice : Nat) : Prop := ∀ mask, ∃ t, writeMask s slice mask = (.ok (), t)

/-- Whether a mask is accepted does not depend on the mask or on masks accepted before. -/
structure Steady (sound : σ → Prop) : Prop where
  /-- A slice that took one mask takes any. -/
  takes : ∀ {s t : σ} {slice mask}, sound s → writeMask s slice mask = (.ok (), t) → Takes s slice
  /-- Masks that are accepted are in no other one's way. -/
  stays : ∀ {s t : σ} {slice mask other}, sound s → writeMask s slice mask = (.ok (), t) →
    Takes s other → Takes t other
  /-- A mask is refused only because of where it was to be put. -/
  refused : ∀ {s t : σ} {slice mask e}, writeMask s slice mask = (.error e, t) →
    e.kind = .persistence

namespace Steady

variable {sound : σ → Prop} {fits : Nat → Prop} {s t : σ} {entries : List (Nat × Mask)}

/-- After masks were accepted, their slices and all that took masks before take masks. -/
theorem takes_writeMasks (steady : Steady sound) (laws : Laws sound fits)
    (hfits : ∀ e ∈ entries, fits e.2.width) (hs : sound s)
    (h : writeMasks s entries = (.ok (), t)) :
    (∀ slice, Takes s slice → Takes t slice) ∧ ∀ e ∈ entries, Takes t e.1 := by
  induction entries generalizing s with
  | nil =>
      simp only [writeMasks, Prod.mk.injEq, true_and] at h
      subst h
      exact ⟨fun _ hslice => hslice, by simp⟩
  | cons e rest ih =>
      obtain ⟨u, hu, hlater⟩ := writeMasks_cons_eq_ok_iff.1 h
      obtain ⟨hsound, -⟩ := laws.mask_accepted hs (hfits e List.mem_cons_self) hu
      obtain ⟨hkept, hrest⟩ := ih (fun e he => hfits e (List.mem_cons_of_mem _ he)) hsound hlater
      refine ⟨fun slice hslice => hkept slice (steady.stays hs hu hslice), fun e' he' => ?_⟩
      rcases List.mem_cons.1 he' with rfl | hmem
      · exact hkept _ (steady.stays hs hu (steady.takes hs hu))
      · exact hrest e' hmem

/-- Masks for slices that take masks are accepted. -/
theorem writeMasks_of_takes (steady : Steady sound) (laws : Laws sound fits)
    (hfits : ∀ e ∈ entries, fits e.2.width) (hs : sound s) (h : ∀ e ∈ entries, Takes s e.1) :
    ∃ t, writeMasks s entries = (.ok (), t) := by
  induction entries generalizing s with
  | nil => exact ⟨s, rfl⟩
  | cons e rest ih =>
      obtain ⟨u, hu⟩ := h e List.mem_cons_self e.2
      obtain ⟨hsound, -⟩ := laws.mask_accepted hs (hfits e List.mem_cons_self) hu
      obtain ⟨t, ht⟩ := ih (fun e he => hfits e (List.mem_cons_of_mem _ he)) hsound
        fun e he => steady.stays hs hu (h e (List.mem_cons_of_mem _ he))
      exact ⟨t, writeMasks_cons_eq_ok_iff.2 ⟨u, hu, ht⟩⟩

/-- **Masks that were accepted are accepted again.** -/
theorem writeMasks_again (steady : Steady sound) (laws : Laws sound fits)
    (hentries : entries.Pairwise fun a b => compare a.1 b.1 = .lt)
    (hfits : ∀ e ∈ entries, fits e.2.width) (hs : sound s)
    (h : writeMasks s entries = (.ok (), t)) : ∃ u, writeMasks t entries = (.ok (), u) := by
  obtain ⟨hsound, -⟩ := laws.writeMasks_accepted hentries hfits hs h
  obtain ⟨-, htakes⟩ := steady.takes_writeMasks laws hfits hs h
  exact steady.writeMasks_of_takes laws hfits hsound htakes

theorem refused_writeMasks (steady : Steady sound) {e : Fault}
    (h : writeMasks s entries = (.error e, t)) : e.kind = .persistence := by
  induction entries generalizing s with
  | nil => simp [writeMasks] at h
  | cons entry rest ih =>
      simp only [writeMasks] at h
      split at h
      · exact ih h
      · rename_i e' u hu
        obtain ⟨he, -⟩ := Prod.mk.inj h
        rw [← Except.error.inj he]
        exact steady.refused hu

end Steady

/-! ### Stores in which nothing fails -/

/-- For the slices of a cell it can be told which have a record, every mask can be read, and every
mask of the pool's width is accepted and leaves the store as ready as it was. -/
structure Willing (pool : Pool) (tenants : Nat) (ready : σ → Prop) : Prop where
  tells : ∀ {s slice}, ready s → slice < tenants → ∃ recorded, hasMask? s slice = .ok recorded
  readable : ∀ {s slice}, ready s → slice < tenants → Readable s slice
  accepts : ∀ {s slice mask}, ready s → slice < tenants → mask.width = pool.size →
    ∃ t, writeMask s slice mask = (.ok (), t) ∧ ready t

theorem Willing.writeMasks {pool : Pool} {tenants : Nat} {ready : σ → Prop}
    (willing : Willing pool tenants ready) {s : σ} (hs : ready s) {entries : List (Nat × Mask)}
    (h : ∀ e ∈ entries, e.1 < tenants ∧ e.2.width = pool.size) :
    ∃ t, Store.writeMasks s entries = (.ok (), t) ∧ ready t := by
  induction entries generalizing s with
  | nil => exact ⟨s, rfl, hs⟩
  | cons e rest ih =>
      obtain ⟨⟨hslice, hwidth⟩, hrest⟩ := List.forall_mem_cons.1 h
      obtain ⟨u, hu, hready⟩ := willing.accepts hs hslice hwidth
      obtain ⟨t, ht, hready'⟩ := ih hready hrest
      exact ⟨t, writeMasks_cons_eq_ok_iff.2 ⟨u, hu, ht⟩, hready'⟩

theorem Willing.listable {pool : Pool} {tenants : Nat} {ready : σ → Prop}
    (willing : Willing pool tenants ready) {s : σ} (hs : ready s) {slice : Nat}
    (hslice : slice < tenants) : Listable s slice := by
  obtain ⟨recorded, hrecorded⟩ := willing.tells hs hslice
  cases recorded with
  | false => exact .inl hrecorded
  | true => exact .inr ⟨hrecorded, willing.readable hs hslice⟩

/-- A steady store that can always tell which slices have a record is ready if each slice of the
cell takes masks and can be read. -/
theorem Steady.willing {sound : σ → Prop} {fits : Nat → Prop} (steady : Steady sound)
    (laws : Laws sound fits)
    (htells : ∀ (s : σ) (slice : Nat), ∃ recorded, hasMask? s slice = .ok recorded)
    {pool : Pool} (hfits : fits pool.size) (tenants : Nat) :
    Willing pool tenants fun s : σ =>
      sound s ∧ ∀ slice < tenants, Takes s slice ∧ Readable s slice where
  tells {s slice} _ _ := htells s slice
  readable h hslice := (h.2 _ hslice).2
  accepts {s slice mask} h hslice hwidth := by
    obtain ⟨t, ht⟩ := (h.2 slice hslice).1 mask
    obtain ⟨hsound, hwritten⟩ := laws.mask_accepted h.1 (hwidth ▸ hfits) ht
    refine ⟨t, ht, hsound, fun other hother => ⟨steady.stays h.1 ht (h.2 other hother).1, ?_⟩⟩
    by_cases heq : other = slice
    · exact ⟨mask, heq ▸ hwritten.readMask_self⟩
    · exact (readable_congr (hwritten.readMask_ne heq)).2 (h.2 other hother).2

/-- Each mask that is accepted is counted. -/
theorem Counts.masks_of_writeMasks {stats : σ → WriteStats} {missing : Attempt → Bool}
    (counts : Counts stats missing) {s t : σ} {entries : List (Nat × Mask)}
    (h : writeMasks s entries = (.ok (), t)) :
    (stats t).masks = (stats s).masks + entries.length := by
  induction entries generalizing s with
  | nil =>
      simp only [writeMasks, Prod.mk.injEq, true_and] at h
      rw [h]
      rfl
  | cons e rest ih =>
      obtain ⟨u, hu, hlater⟩ := writeMasks_cons_eq_ok_iff.1 h
      have hgrown := (counts.mask s e.1 e.2).masks
      rw [hu] at hgrown
      have hone : (WriteStats.ofAttempts [.mask e.1 e.2 (.ok ())]).masks = 1 := rfl
      rw [ih hlater, hgrown, hone, List.length_cons]
      omega

end Store

/-! ### The two stores -/

namespace MemoryStore

/-- A store in memory takes masks unless it rejects writes. -/
theorem takes_iff {s : MemoryStore} {slice : Nat} : Takes s slice ↔ s.rejecting = false := by
  constructor
  · intro h
    obtain ⟨t, ht⟩ := h default
    simp only [Store.writeMask, writeMask] at ht
    split at ht
    · simp at ht
    · rename_i haccepting
      simpa using haccepting
  · intro h mask
    obtain ⟨stats, hwrite⟩ := writeMask_of_not_rejecting h slice mask
    exact ⟨_, hwrite⟩

/-- A store that accepted a mask does not reject writes, neither before nor after. -/
theorem not_rejecting_of_accepted {s t : MemoryStore} {slice : Nat} {mask : Mask}
    (h : Store.writeMask s slice mask = (.ok (), t)) :
    s.rejecting = false ∧ t.rejecting = false := by
  simp only [Store.writeMask, writeMask] at h
  split at h
  · simp at h
  · rename_i haccepting
    obtain ⟨-, rfl⟩ := Prod.mk.inj h
    exact ⟨by simpa using haccepting, by simpa using haccepting⟩

theorem steady : Steady (σ := MemoryStore) fun _ => True where
  takes _ h := takes_iff.2 (not_rejecting_of_accepted h).1
  stays _ h _ := takes_iff.2 (not_rejecting_of_accepted h).2
  refused {s t slice mask e} h := by
    simp only [Store.writeMask, writeMask] at h
    split at h
    · obtain ⟨he, -⟩ := Prod.mk.inj h
      rw [← Except.error.inj he]
      rfl
    · simp at h

end MemoryStore

namespace FileStore

open RecordLayout FileTree

/-- A slice takes masks if there is a seat for its file. -/
theorem takes_iff {s : FileStore} (hplain : '/' ∉ s.layout.maskPrefix.toList) {slice : Nat} :
    Takes s slice ↔ ∃ home, Seat s.files s.layout.directory home (s.layout.maskName slice) := by
  have hname := isName_maskName hplain slice
  constructor
  · intro htakes
    obtain ⟨t, ht⟩ := htakes default
    rcases s.writeMask_cases slice default with ⟨files, hfiles, -⟩ | ⟨cause, hwrite⟩
    · obtain ⟨home, hseat, -⟩ := seat_of_replaceText hname hfiles
      exact ⟨home, hseat⟩
    · cases ht.symm.trans hwrite
  · rintro ⟨home, hseat⟩ mask
    obtain ⟨stats, hwrite⟩ := writeMask_of_replaceText (hseat.replaceText hname (mask.text ++ "\n"))
    exact ⟨_, hwrite⟩

theorem steady {layout : RecordLayout} (hapart : layout.Apart) (pool : Pool) (tenants : Nat) :
    Steady (σ := FileStore) (SetUp layout pool tenants) where
  takes {s t slice mask} hs h := by
    have hplain : '/' ∉ s.layout.maskPrefix.toList := hs.layout ▸ hapart.maskPlain
    rcases s.writeMask_cases slice mask with ⟨files, hfiles, -⟩ | ⟨cause, hwrite⟩
    · obtain ⟨home, hseat, -⟩ := seat_of_replaceText (isName_maskName hplain slice) hfiles
      exact (takes_iff hplain).2 ⟨home, hseat⟩
    · cases h.symm.trans hwrite
  stays {s t slice mask other} hs h hother := by
    have hplain : '/' ∉ s.layout.maskPrefix.toList := hs.layout ▸ hapart.maskPlain
    rcases s.writeMask_cases slice mask with ⟨files, hfiles, hwrite⟩ | ⟨cause, hwrite⟩
    · obtain ⟨-, rfl⟩ := Prod.mk.inj (h.symm.trans hwrite)
      obtain ⟨home, hseat, hput⟩ := seat_of_replaceText (isName_maskName hplain slice) hfiles
      obtain ⟨home', hseat'⟩ := (takes_iff hplain).1 hother
      have hafter : Seat files s.layout.directory home' (s.layout.maskName other) := by
        rw [hput]
        exact hseat'.put hseat.free _ _
      refine Iff.mpr (takes_iff ?_) ⟨home', hafter⟩
      exact hplain
    · cases h.symm.trans hwrite
  refused {s t slice mask e} h := by
    rcases s.writeMask_cases slice mask with ⟨files, -, hwrite⟩ | ⟨cause, hwrite⟩
    · cases h.symm.trans hwrite
    · cases h.symm.trans hwrite
      rfl

end FileStore

end RanSlicing
