/-
Overlaps are the units that two slices of a map hold.

The list is made by setting each entry against the later ones.  The keys of a map ascend, so
"later" is "with a higher key", and a unit is listed for two slices exactly if both masks hold it
(`mem_ofMasks`).  For the same reason the list ascends by first slice, second slice and unit, so
nothing is in it twice (`pairwise_ofMasks`).  A map without overlaps is one whose masks are disjoint
in pairs, which can be found by counting too.
-/
import RanSlicing.Allocation.Overlap
import RanSlicing.Proofs.Mask.Union
import RanSlicing.Proofs.SortedMap

namespace RanSlicing.Overlap

/-- What the first entry shares with later ones is listed with its key. -/
private theorem mem_shared {first : Nat} {mask : Mask} {rest : List (Nat × Mask)} {o : Overlap} :
    o ∈ rest.flatMap (fun (second, other) => (mask.overlap other).map (⟨first, second, ·⟩)) ↔
      o.first = first ∧ ∃ other, (o.second, other) ∈ rest ∧
        mask.isSet o.unit = true ∧ other.isSet o.unit = true := by
  rw [List.mem_flatMap]
  constructor
  · rintro ⟨⟨second, other⟩, hrest, ho⟩
    obtain ⟨unit, hunit, rfl⟩ := List.mem_map.1 ho
    exact ⟨rfl, other, hrest, Mask.mem_overlap.1 hunit⟩
  · rintro ⟨rfl, other, hrest, hshared⟩
    exact ⟨(o.second, other), hrest, List.mem_map.2 ⟨o.unit, Mask.mem_overlap.2 hshared, rfl⟩⟩

/-- An entry with a key above that of another entry is not the first one. -/
private theorem mem_rest_of_lt {e : Nat × Mask} {rest : List (Nat × Mask)}
    (he : ∀ x ∈ rest, compare e.1 x.1 = .lt) {a b : Nat × Mask} (ha : a ∈ e :: rest)
    (hb : b ∈ e :: rest) (hab : a.1 < b.1) : b ∈ rest := by
  refine (List.mem_cons.1 hb).resolve_left fun hhead => ?_
  rw [hhead] at hab
  rcases List.mem_cons.1 ha with rfl | hlater
  · omega
  · have := Nat.compare_eq_lt.1 (he a hlater)
    omega

theorem mem_among {es : List (Nat × Mask)}
    (hes : es.Pairwise fun a b => compare a.1 b.1 = .lt) {o : Overlap} :
    o ∈ among es ↔ o.first < o.second ∧ ∃ m n, (o.first, m) ∈ es ∧ (o.second, n) ∈ es ∧
      m.isSet o.unit = true ∧ n.isSet o.unit = true := by
  induction es with
  | nil => simp [among]
  | cons e rest ih =>
      obtain ⟨key, mask⟩ := e
      obtain ⟨hkey, hrest⟩ := List.pairwise_cons.1 hes
      rw [among, List.mem_append, mem_shared, ih hrest]
      constructor
      · rintro (⟨rfl, other, hother, hset, hset'⟩ | ⟨hlt, m, n, hm, hn, hset, hset'⟩)
        · exact ⟨Nat.compare_eq_lt.1 (hkey _ hother), mask, other, List.mem_cons_self,
            List.mem_cons_of_mem _ hother, hset, hset'⟩
        · exact ⟨hlt, m, n, List.mem_cons_of_mem _ hm, List.mem_cons_of_mem _ hn, hset, hset'⟩
      · rintro ⟨hlt, m, n, hm, hn, hset, hset'⟩
        have hn' : (o.second, n) ∈ rest := mem_rest_of_lt hkey hm hn hlt
        rcases List.mem_cons.1 hm with hhead | hlater
        · obtain ⟨hfirst, rfl⟩ := Prod.mk.inj hhead
          exact .inl ⟨hfirst, n, hn', hset, hset'⟩
        · exact .inr ⟨hlt, m, n, hlater, hn', hset, hset'⟩

/-- **A unit is listed for two slices exactly if both hold it.** -/
theorem mem_ofMasks {masks : SliceMap Mask} {o : Overlap} :
    o ∈ ofMasks masks ↔ o.first < o.second ∧ ∃ m n, masks.get? o.first = some m ∧
      masks.get? o.second = some n ∧ m.isSet o.unit = true ∧ n.isSet o.unit = true := by
  simp only [ofMasks, mem_among masks.ascending, SortedMap.mem_entries_iff]

/-- Nothing is listed exactly if the masks are disjoint in pairs. -/
theorem ofMasks_eq_nil_iff {masks : SliceMap Mask} :
    ofMasks masks = [] ↔ ∀ a b m n, masks.get? a = some m → masks.get? b = some n → a ≠ b →
      m.Disjoint n := by
  rw [List.eq_nil_iff_forall_not_mem]
  constructor
  · intro h a b m n hm hn hab unit hset
    rw [← Bool.not_eq_true]
    intro hset'
    rcases Nat.lt_or_gt_of_ne hab with hlt | hgt
    · exact h ⟨a, b, unit⟩ (mem_ofMasks.2 ⟨hlt, m, n, hm, hn, hset, hset'⟩)
    · exact h ⟨b, a, unit⟩ (mem_ofMasks.2 ⟨hgt, n, m, hn, hm, hset', hset⟩)
  · intro h o ho
    obtain ⟨hlt, m, n, hm, hn, hset, hset'⟩ := mem_ofMasks.1 ho
    exact Bool.eq_false_iff.1 (h _ _ m n hm hn (Nat.ne_of_lt hlt) o.unit hset) hset'

/-! ### Order -/

/-- By first slice, then by second slice, then by unit. -/
def Precedes (a b : Overlap) : Prop :=
  a.first < b.first ∨ a.first = b.first ∧
    (a.second < b.second ∨ a.second = b.second ∧ a.unit < b.unit)

/-- What the first entry shares with later ones ascends by their keys and the units. -/
private theorem pairwise_shared (first : Nat) (mask : Mask) {rest : List (Nat × Mask)}
    (hrest : rest.Pairwise fun a b => compare a.1 b.1 = .lt) :
    (rest.flatMap fun (second, other) =>
      (mask.overlap other).map (⟨first, second, ·⟩)).Pairwise Precedes := by
  rw [List.pairwise_flatMap]
  constructor
  · intro e _
    exact List.pairwise_map.2
      ((mask.overlap_pairwise e.2).imp fun hlt => .inr ⟨rfl, .inr ⟨rfl, hlt⟩⟩)
  · refine hrest.imp fun {a b} hab x hx y hy => ?_
    obtain ⟨unit, -, rfl⟩ := List.mem_map.1 hx
    obtain ⟨unit', -, rfl⟩ := List.mem_map.1 hy
    exact .inr ⟨rfl, .inl (Nat.compare_eq_lt.1 hab)⟩

theorem pairwise_among {es : List (Nat × Mask)}
    (hes : es.Pairwise fun a b => compare a.1 b.1 = .lt) : (among es).Pairwise Precedes := by
  induction es with
  | nil => exact .nil
  | cons e rest ih =>
      obtain ⟨hkey, hrest⟩ := List.pairwise_cons.1 hes
      rw [among, List.pairwise_append]
      refine ⟨pairwise_shared e.1 e.2 hrest, ih hrest, fun x hx y hy => .inl ?_⟩
      obtain ⟨hfirst, -⟩ := mem_shared.1 hx
      obtain ⟨-, m, -, hm, -⟩ := (mem_among hrest).1 hy
      rw [hfirst]
      exact Nat.compare_eq_lt.1 (hkey _ hm)

/-- **The list ascends strictly.** -/
theorem pairwise_ofMasks (masks : SliceMap Mask) : (ofMasks masks).Pairwise Precedes :=
  pairwise_among masks.ascending

theorem nodup_ofMasks (masks : SliceMap Mask) : (ofMasks masks).Nodup := by
  refine (pairwise_ofMasks masks).imp fun {a b} h heq => ?_
  rw [heq, Precedes] at h
  omega

/-! ### Counting -/

theorem among_eq_nil_iff {es : List (Nat × Mask)} :
    among es = [] ↔ (es.map (·.2)).Pairwise Mask.Disjoint := by
  induction es with
  | nil => exact iff_of_true rfl .nil
  | cons e rest ih =>
      have hshared : rest.flatMap (fun (second, other) =>
          (e.2.overlap other).map (⟨e.1, second, ·⟩)) = ([] : List Overlap) ↔
            ∀ other ∈ rest.map (·.2), e.2.Disjoint other := by
        rw [List.flatMap_eq_nil_iff, List.forall_mem_map]
        refine forall₂_congr fun x _ => ?_
        rw [List.map_eq_nil_iff, Mask.overlap, List.filter_eq_nil_iff]
        simp only [Mask.mem_units, Bool.not_eq_true, Mask.Disjoint]
      rw [among, List.append_eq_nil_iff, hshared, ih, List.map_cons, List.pairwise_cons]

/-- **Nothing is listed exactly if the counts add up to the count of the union.** -/
theorem ofMasks_eq_nil_iff_count (masks : SliceMap Mask) :
    ofMasks masks = [] ↔ ((masks.entries.map (·.2)).map Mask.count).sum
      = (Mask.union (masks.entries.map (·.2))).count := by
  rw [ofMasks, among_eq_nil_iff, Mask.sum_count_eq_iff]

/-- What the list of a map is. -/
structure Exact (masks : SliceMap Mask) : Prop where
  /-- It has the units that two slices hold, the lower slice first. -/
  members : ∀ first second unit, ⟨first, second, unit⟩ ∈ ofMasks masks ↔
    first < second ∧ ∃ m n, masks.get? first = some m ∧ masks.get? second = some n ∧
      m.isSet unit = true ∧ n.isSet unit = true
  /-- It ascends by first slice, second slice and unit. -/
  ordered : (ofMasks masks).Pairwise Precedes
  /-- It has nothing twice. -/
  once : (ofMasks masks).Nodup
  /-- It is empty exactly if the masks are disjoint in pairs. -/
  disjoint : ofMasks masks = [] ↔ ∀ a b m n, masks.get? a = some m → masks.get? b = some n →
    a ≠ b → m.Disjoint n
  /-- It is empty exactly if the counts add up to the count of the union. -/
  counted : ofMasks masks = [] ↔ ((masks.entries.map (·.2)).map Mask.count).sum
    = (Mask.union (masks.entries.map (·.2))).count

/-- **The list of overlaps is sound, complete and without repetition**, whatever widths the masks
have. -/
theorem exact_ofMasks (masks : SliceMap Mask) : Exact masks where
  members _ _ _ := mem_ofMasks
  ordered := pairwise_ofMasks masks
  once := nodup_ofMasks masks
  disjoint := ofMasks_eq_nil_iff
  counted := ofMasks_eq_nil_iff_count masks

/-- Three masks of three widths, the first of which shares a unit with each of the others. -/
example :
    let masks : SliceMap Mask := .ofList
      [(0, ⟨[true, false, true]⟩), (4, ⟨[true]⟩), (7, ⟨[false, true, true, true]⟩)]
    ofMasks masks = [⟨0, 4, 0⟩, ⟨0, 7, 2⟩] := by
  decide +kernel

end RanSlicing.Overlap
