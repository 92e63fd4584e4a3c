/-
Requests that were carried out.

A request decides on its masks before the first of them is written.  They are for configured slices
and as wide as the pool (`Fitting`), so a store takes each of them as it is: what is read after a
request that was carried out is what was decided, and of the other slices what was read before.
-/
import RanSlicing.Allocation.Request
import RanSlicing.Proofs.Allocation.Equal
import RanSlicing.Proofs.Store.Laws

namespace RanSlicing.Allocation

open Store

variable {σ : Type} [Store σ] {pool : Pool} {tenants : Nat}

/-- The masks are for slices below `tenants` and as wide as the pool. -/
def Fitting (pool : Pool) (tenants : Nat) (entries : List (Nat × Mask)) : Prop :=
  ∀ e ∈ entries, e.1 < tenants ∧ e.2.width = pool.size

theorem fitting_equal (hlimit : pool.limit ≤ pool.size) {masks : SliceMap Mask}
    (h : equal pool tenants = .ok masks) : Fitting pool tenants masks.entries := by
  obtain ⟨dealt, hlength, rfl, hbounds, -⟩ := equal_spec hlimit h
  rintro ⟨slice, mask⟩ hmem
  rw [SortedMap.mem_entries_iff, SliceMap.get?_ofMasks] at hmem
  obtain ⟨hlt, -⟩ := List.getElem?_eq_some_iff.1 hmem
  exact ⟨by omega, (hbounds mask (List.mem_of_getElem? hmem)).width⟩

/-- What is answered was decided, and every write was accepted. -/
theorem carryOut_eq_ok {decided : Except Fault (SliceMap Mask)} {written : SliceMap Mask} {s t : σ}
    (h : carryOut s decided = (.ok written, t)) :
    decided = .ok written ∧ writeMasks s written.entries = (.ok (), t) := by
  unfold carryOut at h
  split at h
  · simp at h
  · split at h
    · rename_i masks u hwrite
      cases h
      exact ⟨rfl, hwrite⟩
    · simp at h

theorem carryOut_ok (s : σ) (masks : SliceMap Mask) :
    carryOut s (.ok masks) =
      ((writeMasks s masks.entries).1.map fun _ => masks, (writeMasks s masks.entries).2) := by
  simp only [carryOut]
  cases writeMasks s masks.entries with
  | mk answer t => cases answer <;> rfl

theorem carryOut_of_accepted {masks : SliceMap Mask} {s : σ}
    (h : (writeMasks s masks.entries).1 = .ok ()) :
    carryOut s (.ok masks) = (.ok masks, (writeMasks s masks.entries).2) := by
  rw [carryOut_ok, h]
  rfl

/-- **What is read after a request that was carried out.** -/
theorem readMask_carryOut {sound : σ → Prop} {fits : Nat → Prop} (laws : Laws sound fits)
    (hfits : fits pool.size) {decided : Except Fault (SliceMap Mask)}
    (hdecided : ∀ masks, decided = .ok masks → Fitting pool tenants masks.entries)
    {written : SliceMap Mask} {s t : σ} (hs : sound s)
    (h : carryOut s decided = (.ok written, t)) :
    sound t ∧ ∀ slice, readMask t slice = (written.get? slice).elim (readMask s slice) .ok := by
  obtain ⟨hwritten, hwrite⟩ := carryOut_eq_ok h
  have hfit : ∀ e ∈ written.entries, fits e.2.width := by
    intro e he
    rw [(hdecided written hwritten e he).2]
    exact hfits
  obtain ⟨hsound, hmasks⟩ := laws.writeMasks_accepted written.ascending hfit hs hwrite
  exact ⟨hsound, hmasks.masks⟩

end RanSlicing.Allocation
