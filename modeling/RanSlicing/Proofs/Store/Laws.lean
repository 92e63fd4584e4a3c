/-
What a store owes its callers.

Nothing of the logic of allocation sees where the records lie.  What it relies on is `Laws`: a
mask that is accepted reads back and touches no other record, and a write that is refused leaves
every record as it was.  Which writes are accepted is left open, so whatever follows from the
laws holds for every pattern of failures.

The laws are stated for the `sound` states of a store, which its operations never leave, and for
masks of a width that `fits`, because a store may cut or pad what it reads to a width of its own.
`Faithful` forgets both: a state is faithful if some choice of them contains it.
-/
import RanSlicing.Proofs.Except
import RanSlicing.Proofs.Mask
import RanSlicing.Proofs.SortedMap
import RanSlicing.Store.Basic

namespace RanSlicing.Store

open Number (wordMax)

variable {σ : Type} [Store σ]

/-- The records of two states read the same. -/
structure SameRecords (s t : σ) : Prop where
  masks : ∀ slice, readMask t slice = readMask s slice
  recorded : ∀ slice, hasMask? t slice = hasMask? s slice
  policies : readPolicies t = readPolicies s

/-- The records of `t` are those of `s` but for the masks that are listed. -/
structure MasksWritten (s t : σ) (entries : List (Nat × Mask)) : Prop where
  masks : ∀ slice, readMask t slice = (entries.lookup slice).elim (readMask s slice) .ok
  recorded : ∀ slice,
    hasMask? t slice = (entries.lookup slice).elim (hasMask? s slice) fun _ => .ok true
  policies : readPolicies t = readPolicies s

/-- The table has every slice of the old one, and beyond them only slices that a record can
name. -/
structure Extends (old new : PolicyTable) : Prop where
  keeps : ∀ slice, (old.get? slice).isSome → (new.get? slice).isSome
  named : ∀ slice, (new.get? slice).isSome → (old.get? slice).isSome ∨ slice ≤ wordMax

/-- The records of `t` are those of `s` but for the policies. -/
structure PoliciesWritten (s t : σ) (policies : PolicyTable) : Prop where
  masks : ∀ slice, readMask t slice = readMask s slice
  recorded : ∀ slice, hasMask? t slice = hasMask? s slice
  /-- A table that extends the one on record reads back. -/
  policies : ∀ old, readPolicies s = .ok old → Extends old policies →
    readPolicies t = .ok policies

/-- The laws of a store in its sound states, for masks of a width that fits. -/
structure Laws (sound : σ → Prop) (fits : Nat → Prop) : Prop where
  width_of_readMask : ∀ {s slice mask}, sound s → readMask s slice = .ok mask → fits mask.width
  unassigned_of_not_hasMask : ∀ {s slice mask}, sound s → hasMask? s slice = .ok false →
    readMask s slice = .ok mask → ∀ unit, mask.isSet unit = false
  mask_accepted : ∀ {s t slice mask}, sound s → fits mask.width →
    writeMask s slice mask = (.ok (), t) → sound t ∧ MasksWritten s t [(slice, mask)]
  mask_refused : ∀ {s t slice mask e}, sound s →
    writeMask s slice mask = (.error e, t) → sound t ∧ SameRecords s t
  policies_accepted : ∀ {s t policies}, sound s →
    writePolicies s policies = (.ok (), t) → sound t ∧ PoliciesWritten s t policies
  policies_refused : ∀ {s t policies e}, sound s →
    writePolicies s policies = (.error e, t) → sound t ∧ SameRecords s t

/-- A state from which on the store keeps the laws for masks of the width. -/
def Faithful (width : Nat) (s : σ) : Prop :=
  ∃ sound fits, Laws (σ := σ) sound fits ∧ fits width ∧ sound s

theorem Extends.refl (table : PolicyTable) : Extends table table :=
  ⟨fun _ h => h, fun _ h => .inl h⟩

/-- A policy that is set extends a table by at most its slice. -/
theorem Extends.insert {old new : PolicyTable} (h : Extends old new) {slice : Nat}
    (hslice : slice ≤ wordMax) (policy : Policy) : Extends old (new.insert slice policy) := by
  refine ⟨fun other hother => ?_, fun other hother => ?_⟩
  · by_cases heq : other = slice
    · subst heq
      rw [SortedMap.get?_insert_self]
      rfl
    · rw [SortedMap.get?_insert_ne new policy heq]
      exact h.keeps other hother
  · by_cases heq : other = slice
    · exact .inr (heq ▸ hslice)
    · rw [SortedMap.get?_insert_ne new policy heq] at hother
      exact h.named other hother

/-! ### What a slice holds -/

/-- The mask of the slice can be read. -/
def Readable (s : σ) (slice : Nat) : Prop := ∃ mask, readMask s slice = .ok mask

/-- The mask of the slice can be read and holds the unit. -/
def Holds (s : σ) (slice unit : Nat) : Prop :=
  ∃ mask, readMask s slice = .ok mask ∧ unit ∈ mask

theorem holds_iff {s : σ} {slice unit : Nat} {mask : Mask} (h : readMask s slice = .ok mask) :
    Holds s slice unit ↔ mask.isSet unit = true := by
  constructor
  · rintro ⟨mask', h', hmem⟩
    rw [h] at h'
    cases h'
    exact hmem
  · intro hset
    exact ⟨mask, h, hset⟩

theorem holds_congr {s t : σ} {slice : Nat} (h : readMask t slice = readMask s slice)
    (unit : Nat) : Holds t slice unit ↔ Holds s slice unit := by
  simp only [Holds, h]

theorem readable_congr {s t : σ} {slice : Nat} (h : readMask t slice = readMask s slice) :
    Readable t slice ↔ Readable s slice := by
  simp only [Readable, h]

/-! ### Reading all masks -/

theorem readMasks_eq_ok_iff {s : σ} {tenants : Nat} {masks : List Mask} :
    readMasks s tenants = .ok masks ↔
      masks.length = tenants ∧
        ∀ slice (h : slice < masks.length), readMask s slice = .ok masks[slice] := by
  rw [readMasks, mapM_eq_ok_iff, List.forall₂_iff_get]
  simp only [List.length_range, List.get_eq_getElem, List.getElem_range]
  constructor
  · rintro ⟨hlen, hall⟩
    exact ⟨hlen.symm, fun slice h => hall slice (by omega) h⟩
  · rintro ⟨hlen, hall⟩
    exact ⟨hlen.symm, fun slice _ h => hall slice h⟩

theorem readMasks_congr {s t : σ} (h : ∀ slice, readMask t slice = readMask s slice)
    (tenants : Nat) : readMasks t tenants = readMasks s tenants := by
  rw [readMasks, readMasks, funext h]

/-! ### The masks on record -/

/-- A slice without a record adds nothing, and one with a record adds the mask that is read. -/
theorem addRecorded_eq_ok_iff {s : σ} {m m' : SliceMap Mask} {slice : Nat} :
    addRecorded s m slice = .ok m' ↔ hasMask? s slice = .ok false ∧ m' = m ∨
      hasMask? s slice = .ok true ∧ ∃ mask, readMask s slice = .ok mask ∧ m' = m.insert slice mask := by
  rw [addRecorded, bind_eq_ok_iff]
  constructor
  · rintro ⟨recorded, hrecorded, h⟩
    cases recorded with
    | false => exact .inl ⟨hrecorded, (Except.ok.inj h).symm⟩
    | true =>
        obtain ⟨mask, hmask, hinsert⟩ := map_eq_ok_iff.1 h
        exact .inr ⟨hrecorded, mask, hmask, hinsert.symm⟩
  · rintro (⟨hrecorded, rfl⟩ | ⟨hrecorded, mask, hmask, rfl⟩)
    · exact ⟨false, hrecorded, rfl⟩
    · exact ⟨true, hrecorded, map_eq_ok_iff.2 ⟨mask, hmask, rfl⟩⟩

/-- Slices that were gone through have their masks on record, and no other slice gets one. -/
theorem get?_foldlM_addRecorded {s : σ} {slices : List Nat} {m persisted : SliceMap Mask}
    (h : slices.foldlM (addRecorded s) m = .ok persisted) (slice : Nat) :
    persisted.get? slice = m.get? slice ∧ (slice ∈ slices → hasMask? s slice = .ok false) ∨
      hasMask? s slice = .ok true ∧
        ∃ mask, readMask s slice = .ok mask ∧ persisted.get? slice = some mask := by
  induction slices generalizing m with
  | nil =>
      obtain rfl := Except.ok.inj h
      exact .inl ⟨rfl, fun hmem => absurd hmem List.not_mem_nil⟩
  | cons first rest ih =>
      rw [List.foldlM_cons, bind_eq_ok_iff] at h
      obtain ⟨m', hfirst, hrest⟩ := h
      rcases ih hrest with ⟨hget, hmem⟩ | hrecorded
      · rcases addRecorded_eq_ok_iff.1 hfirst with ⟨hnone, rfl⟩ | ⟨hsome, mask, hmask, rfl⟩
        · refine .inl ⟨hget, fun hslice => ?_⟩
          rcases List.mem_cons.1 hslice with rfl | hlater
          · exact hnone
          · exact hmem hlater
        · by_cases heq : slice = first
          · subst heq
            exact .inr ⟨hsome, mask, hmask, hget.trans (SortedMap.get?_insert_self m slice mask)⟩
          · refine .inl ⟨hget.trans (SortedMap.get?_insert_ne m mask heq), fun hslice => ?_⟩
            exact hmem ((List.mem_cons.1 hslice).resolve_left heq)
      · exact .inr hrecorded

/-- The masks on record, slice by slice. -/
theorem get?_recordedMasks {s : σ} {tenants : Nat} {persisted : SliceMap Mask}
    (h : recordedMasks s tenants = .ok persisted) {slice : Nat} (hslice : slice < tenants) :
    hasMask? s slice = .ok false ∧ persisted.get? slice = none ∨
      hasMask? s slice = .ok true ∧
        ∃ mask, readMask s slice = .ok mask ∧ persisted.get? slice = some mask := by
  rcases get?_foldlM_addRecorded h slice with ⟨hget, hnone⟩ | hrecorded
  · exact .inl ⟨hnone (List.mem_range.2 hslice), hget⟩
  · exact .inr hrecorded

/-- It can be told whether the slice has a record, and a record can be read. -/
def Listable (s : σ) (slice : Nat) : Prop :=
  hasMask? s slice = .ok false ∨ hasMask? s slice = .ok true ∧ Readable s slice

/-- The masks on record can be listed if each of them can be read. -/
theorem exists_recordedMasks {s : σ} {tenants : Nat} (h : ∀ slice < tenants, Listable s slice) :
    ∃ persisted, recordedMasks s tenants = .ok persisted := by
  refine exists_foldlM_eq_ok (fun slice hslice m => ?_) SortedMap.empty
  rcases h slice (List.mem_range.1 hslice) with hnone | ⟨hsome, mask, hmask⟩
  · exact ⟨m, addRecorded_eq_ok_iff.2 (.inl ⟨hnone, rfl⟩)⟩
  · exact ⟨_, addRecorded_eq_ok_iff.2 (.inr ⟨hsome, mask, hmask, rfl⟩)⟩

/-! ### Writing several masks

Accepted writes of masks of different slices leave just those masks behind, whatever their order
was.
-/

theorem MasksWritten.refl (s : σ) : MasksWritten s s [] :=
  ⟨fun _ => rfl, fun _ => rfl, rfl⟩

/-- The slice that was written has its new mask. -/
theorem MasksWritten.readMask_self {s t : σ} {slice : Nat} {mask : Mask}
    (h : MasksWritten s t [(slice, mask)]) : readMask t slice = .ok mask := by
  rw [h.masks, List.lookup_cons_self]
  rfl

theorem MasksWritten.readMask_ne {s t : σ} {slice other : Nat} {mask : Mask}
    (h : MasksWritten s t [(slice, mask)]) (hne : other ≠ slice) :
    readMask t other = readMask s other := by
  rw [h.masks, SortedMap.lookup_cons_ne hne]
  rfl

theorem MasksWritten.cons {s t u : σ} {slice : Nat} {mask : Mask}
    {rest : List (Nat × Mask)} (hfirst : MasksWritten s t [(slice, mask)])
    (hrest : MasksWritten t u rest) (hfresh : rest.lookup slice = none) :
    MasksWritten s u ((slice, mask) :: rest) := by
  refine ⟨fun other => ?_, fun other => ?_, hrest.policies.trans hfirst.policies⟩
  · rw [hrest.masks, hfirst.masks]
    by_cases h : other = slice
    · subst h
      rw [hfresh, List.lookup_cons_self, List.lookup_cons_self]
      rfl
    · rw [SortedMap.lookup_cons_ne h, SortedMap.lookup_cons_ne h]
      rfl
  · rw [hrest.recorded, hfirst.recorded]
    by_cases h : other = slice
    · subst h
      rw [hfresh, List.lookup_cons_self, List.lookup_cons_self]
      rfl
    · rw [SortedMap.lookup_cons_ne h, SortedMap.lookup_cons_ne h]
      rfl

/-- Masks are accepted one after the other. -/
theorem writeMasks_cons_eq_ok_iff {s t : σ} {e : Nat × Mask} {rest : List (Nat × Mask)} :
    writeMasks s (e :: rest) = (.ok (), t) ↔
      ∃ u, writeMask s e.1 e.2 = (.ok (), u) ∧ writeMasks u rest = (.ok (), t) := by
  rw [writeMasks]
  split
  · rename_i u hu
    rw [hu]
    simp
  · rename_i cause u hu
    rw [hu]
    simp

namespace Laws

variable {sound : σ → Prop} {fits : Nat → Prop}

theorem writeMasks_accepted (laws : Laws sound fits) {s t : σ} {entries : List (Nat × Mask)}
    (hentries : entries.Pairwise fun a b => compare a.1 b.1 = .lt)
    (hfits : ∀ e ∈ entries, fits e.2.width) (hs : sound s)
    (h : writeMasks s entries = (.ok (), t)) : sound t ∧ MasksWritten s t entries := by
  induction entries generalizing s with
  | nil =>
      simp only [writeMasks, Prod.mk.injEq, true_and] at h
      subst h
      exact ⟨hs, .refl s⟩
  | cons e rest ih =>
      obtain ⟨hlow, hrest⟩ := List.pairwise_cons.1 hentries
      obtain ⟨u, hu, hlater⟩ := writeMasks_cons_eq_ok_iff.1 h
      obtain ⟨hsound, hwritten⟩ := laws.mask_accepted hs (hfits e List.mem_cons_self) hu
      obtain ⟨hsound', hwritten'⟩ :=
        ih hrest (fun e he => hfits e (List.mem_cons_of_mem _ he)) hsound hlater
      exact ⟨hsound', hwritten.cons hwritten' (SortedMap.lookup_eq_none_of_lt hlow)⟩

end Laws

end RanSlicing.Store
