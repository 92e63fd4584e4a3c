/-
Stores that keep the masks they accept.

Of all that a store owes its callers this is what a request for ranges relies on: a mask of the
pool's width that is accepted reads back, and the other slices read as before.  It says nothing of
the policies and nothing of a write that is refused, so it asks nothing of the names of the records:
every store in files has it, and every store in memory, alone and behind the choice between them.
-/
import RanSlicing.Proofs.Store.Files
import RanSlicing.Proofs.Store.Memory
import RanSlicing.Store.Backend

namespace RanSlicing.Store

variable {σ : Type} [Store σ] {width : Nat}

/-- From this state on every mask of the width that is accepted reads back, and the other slices
read as before. -/
def KeepsMasks (width : Nat) (s : σ) : Prop :=
  ∃ sound : σ → Prop, sound s ∧ ∀ {s t : σ} {slice : Nat} {mask : Mask}, sound s →
    mask.width = width → writeMask s slice mask = (.ok (), t) →
      sound t ∧ ∀ other, readMask t other = if other = slice then .ok mask else readMask s other

/-- A faithful store keeps the masks it accepts. -/
theorem Faithful.keepsMasks {s : σ} (h : Faithful width s) : KeepsMasks width s := by
  obtain ⟨sound, fits, laws, hfits, hs⟩ := h
  refine ⟨sound, hs, fun {s t slice mask} hs hwidth hwrite => ?_⟩
  obtain ⟨ht, hwritten⟩ := laws.mask_accepted hs (hwidth ▸ hfits) hwrite
  refine ⟨ht, fun other => ?_⟩
  by_cases hother : other = slice
  · rw [if_pos hother, hother]
    exact hwritten.readMask_self
  · rw [if_neg hother]
    exact hwritten.readMask_ne hother

/-- **Masks of different slices that are accepted all read back.** -/
theorem KeepsMasks.writeMasks {s t : σ} {entries : List (Nat × Mask)} (h : KeepsMasks width s)
    (hentries : entries.Pairwise fun a b => compare a.1 b.1 = .lt)
    (hwidth : ∀ e ∈ entries, e.2.width = width) (hwrite : writeMasks s entries = (.ok (), t)) :
    ∀ slice, readMask t slice = (entries.lookup slice).elim (readMask s slice) .ok := by
  obtain ⟨sound, hs, keeps⟩ := h
  induction entries generalizing s with
  | nil =>
      obtain rfl := (Prod.mk.inj hwrite).2
      exact fun _ => rfl
  | cons e rest ih =>
      obtain ⟨hlow, hrest⟩ := List.pairwise_cons.1 hentries
      obtain ⟨u, hu, hlater⟩ := writeMasks_cons_eq_ok_iff.1 hwrite
      obtain ⟨hsound, hread⟩ := keeps hs (hwidth e List.mem_cons_self) hu
      intro slice
      rw [ih hrest (fun e he => hwidth e (List.mem_cons_of_mem _ he)) hlater hsound, hread]
      by_cases hslice : slice = e.1
      · subst hslice
        rw [SortedMap.lookup_eq_none_of_lt hlow, List.lookup_cons_self, if_pos rfl]
        rfl
      · rw [SortedMap.lookup_cons_ne hslice, if_neg hslice]

/-- A store that hands masks on to another one keeps what that one keeps. -/
theorem KeepsMasks.handedOn {τ : Type} [Store τ] (wrap : σ → τ)
    (hread : ∀ s slice, readMask (wrap s) slice = readMask s slice)
    (hwrite : ∀ s slice mask, writeMask (wrap s) slice mask
      = ((writeMask s slice mask).1, wrap (writeMask s slice mask).2))
    {s : σ} (h : KeepsMasks width s) : KeepsMasks width (wrap s) := by
  obtain ⟨sound, hs, keeps⟩ := h
  refine ⟨fun t => ∃ s, wrap s = t ∧ sound s, ⟨s, rfl, hs⟩, ?_⟩
  rintro t u slice mask ⟨s, rfl, hs⟩ hwidth haccepted
  rw [hwrite] at haccepted
  obtain ⟨hok, rfl⟩ := Prod.mk.inj haccepted
  obtain ⟨hsound, hkept⟩ := keeps hs hwidth (Prod.ext hok rfl)
  refine ⟨⟨_, rfl, hsound⟩, fun other => ?_⟩
  rw [hread, hread]
  exact hkept other

end RanSlicing.Store

namespace RanSlicing

open Store

/-- **A store in files keeps the masks of its pool**, whatever its records are called. -/
theorem FileStore.keepsMasks (s : FileStore) : KeepsMasks s.pool.size s := by
  refine ⟨SetUp s.layout s.pool s.tenants, ⟨rfl, rfl, rfl⟩, ?_⟩
  intro t u slice mask ht hwidth hwrite
  obtain ⟨files, stats, hfiles, rfl⟩ := store_of_mask_accepted hwrite
  refine ⟨⟨ht.layout, ht.pool, ht.tenants⟩, fun other => ?_⟩
  by_cases hother : other = slice
  · subst hother
    rw [if_pos rfl]
    show FileStore.readMask _ _ = _
    rw [readMask_of_replaceText hfiles, ht.pool, Mask.resized_eq_self hwidth]
  · rw [if_neg hother]
    exact readMask_of_replaceText_ne hfiles hother stats

/-- **A store in memory keeps every mask.** -/
theorem MemoryStore.keepsMasks (width : Nat) (s : MemoryStore) : KeepsMasks width s :=
  (faithful width s).keepsMasks

theorem Backend.keepsMasks_file (s : FileStore) : KeepsMasks s.pool.size (file s) :=
  s.keepsMasks.handedOn file (fun _ _ => rfl) fun _ _ _ => rfl

theorem Backend.keepsMasks_memory (width : Nat) (s : MemoryStore) (files : FileTree) :
    KeepsMasks width (memory s files) :=
  (s.keepsMasks width).handedOn (memory · files) (fun _ _ => rfl) fun _ _ _ => rfl

end RanSlicing
