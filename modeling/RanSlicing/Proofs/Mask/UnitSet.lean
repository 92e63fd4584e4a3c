/-
A mask acts as a finite set of units inside a frame.

The set of a mask is read off its bits.  Each change of a mask is the change of the same name of its
set and answers the same (`unitSet_perform`), so by induction any number of changes in a row are
(`unitSet_performAll`).  Whatever is asked of a mask is answered by its set (`Shows`), also after
changes that were refused and after a mask has been cut and padded again.
-/
import Mathlib.Data.Finset.Sort
import Mathlib.Order.Bounds.Basic
import RanSlicing.Proofs.Mask.Units

namespace RanSlicing

/-- What may be done to a mask, or to a set of units; `α` is which of them. -/
inductive UnitChange (α : Type) where
  | set (unit : Nat)
  | clear (unit : Nat)
  | merge (other : α)
  | resize (width : Nat)

namespace UnitChange

variable {α β σ : Type}

/-- The same change of something else. -/
def map (f : α → β) : UnitChange α → UnitChange β
  | .set unit => .set unit
  | .clear unit => .clear unit
  | .merge other => .merge (f other)
  | .resize width => .resize width

/-- What a change answers: why it was refused, or whether it made a difference if it tells. -/
abbrev Answer := Except Fault (Option Bool)

/-- The changes of a list one after the other, and what they answer. -/
def performAll (perform : σ → UnitChange α → σ × Answer) (s : σ) :
    List (UnitChange α) → σ × List Answer
  | [] => (s, [])
  | change :: later =>
    let (next, answer) := perform s change
    let (last, answers) := performAll perform next later
    (last, answer :: answers)

end UnitChange

/-! ### The set -/

/-- A finite set of units inside a frame. -/
@[ext]
structure UnitSet where
  width : Nat
  units : Finset Nat
  lt_width : ∀ unit ∈ units, unit < width

namespace UnitSet

/-- The set with a further unit of the frame. -/
def insert (s : UnitSet) (unit : Nat) (h : unit < s.width) : UnitSet where
  width := s.width
  units := Insert.insert unit s.units
  lt_width := (Finset.forall_mem_insert _ _ _).2 ⟨h, s.lt_width⟩

/-- The set without a unit. -/
def erase (s : UnitSet) (unit : Nat) : UnitSet where
  width := s.width
  units := s.units.erase unit
  lt_width other h := s.lt_width other (Finset.mem_of_mem_erase h)

/-- The set with the units of another one that lie in its frame. -/
def unite (s other : UnitSet) : UnitSet where
  width := s.width
  units := s.units ∪ other.units.filter (· < s.width)
  lt_width unit h := (Finset.mem_union.1 h).elim (s.lt_width unit) fun h => (Finset.mem_filter.1 h).2

/-- What lies in another frame. -/
def restrict (s : UnitSet) (width : Nat) : UnitSet where
  width := width
  units := s.units.filter (· < width)
  lt_width _ h := (Finset.mem_filter.1 h).2

section Members

variable {s other : UnitSet} {unit u width : Nat}

@[simp] theorem mem_insert {h : unit < s.width} :
    u ∈ (s.insert unit h).units ↔ u = unit ∨ u ∈ s.units :=
  Finset.mem_insert

@[simp] theorem mem_erase : u ∈ (s.erase unit).units ↔ u ≠ unit ∧ u ∈ s.units :=
  Finset.mem_erase

@[simp] theorem mem_unite :
    u ∈ (s.unite other).units ↔ u ∈ s.units ∨ u ∈ other.units ∧ u < s.width := by
  rw [unite, Finset.mem_union, Finset.mem_filter]

@[simp] theorem mem_restrict : u ∈ (s.restrict width).units ↔ u ∈ s.units ∧ u < width :=
  Finset.mem_filter

/-- A further unit makes a difference if it was not there. -/
theorem insert_ne_iff {h : unit < s.width} :
    (s.insert unit h).units ≠ s.units ↔ unit ∉ s.units :=
  not_congr Finset.insert_eq_self

/-- Taking a unit away makes a difference if it was there. -/
theorem erase_ne_iff : (s.erase unit).units ≠ s.units ↔ unit ∈ s.units :=
  (not_congr Finset.erase_eq_self).trans not_not

end Members

/-- A change of the set.  A unit outside the frame is refused and leaves the set as it is. -/
def perform (s : UnitSet) : UnitChange UnitSet → UnitSet × UnitChange.Answer
  | .set unit =>
    if h : unit < s.width then (s.insert unit h, .ok (some ((s.insert unit h).units ≠ s.units)))
    else (s, .error (.unitOutside unit s.width))
  | .clear unit =>
    if unit < s.width then (s.erase unit, .ok (some ((s.erase unit).units ≠ s.units)))
    else (s, .error (.unitOutside unit s.width))
  | .merge other => (s.unite other, .ok none)
  | .resize width => (s.restrict width, .ok none)

end UnitSet

namespace Mask

/-- The set of the bits that are on, in the frame of the width. -/
def unitSet (m : Mask) : UnitSet where
  width := m.width
  units := (Finset.range m.width).filter fun unit => m.bits[unit]? = some true
  lt_width _ h := Finset.mem_range.1 (Finset.mem_filter.1 h).1

/-- A mask after a unit was set or cleared; if that was refused, it is as it was. -/
def settle (m : Mask) : Except Fault (Mask × Bool) → Mask × UnitChange.Answer
  | .ok (next, changed) => (next, .ok (some changed))
  | .error f => (m, .error f)

/-- A change of the mask. -/
def perform (m : Mask) : UnitChange Mask → Mask × UnitChange.Answer
  | .set unit => m.settle (m.set unit)
  | .clear unit => m.settle (m.clear unit)
  | .merge other => (m.merge other, .ok none)
  | .resize width => (m.resized width, .ok none)

/-! ### One change -/

@[simp] theorem width_unitSet (m : Mask) : m.unitSet.width = m.width := rfl

@[simp] theorem mem_unitSet {m : Mask} {unit : Nat} :
    unit ∈ m.unitSet.units ↔ m.isSet unit = true := by
  rw [unitSet, Finset.mem_filter, Finset.mem_range, ← isSet_iff_getElem?]
  exact and_iff_right_of_imp lt_width_of_isSet

theorem unitSet_put_true {m : Mask} {unit : Nat} (h : unit < m.unitSet.width) :
    (m.put unit true).unitSet = m.unitSet.insert unit h := by
  refine UnitSet.ext (width_put m unit true) (Finset.ext fun u => ?_)
  rw [mem_unitSet, isSet_put, UnitSet.mem_insert, mem_unitSet]
  by_cases hu : u = unit
  · have hlt : unit < m.width := h
    simp [hu, hlt]
  · simp [hu]

theorem unitSet_put_false (m : Mask) (unit : Nat) :
    (m.put unit false).unitSet = m.unitSet.erase unit := by
  refine UnitSet.ext (width_put m unit false) (Finset.ext fun u => ?_)
  rw [mem_unitSet, UnitSet.mem_erase, mem_unitSet]
  by_cases hu : u = unit
  · simp [hu, isSet_put_false]
  · simp [hu, isSet_put]

theorem unitSet_merge (m other : Mask) :
    (m.merge other).unitSet = m.unitSet.unite other.unitSet := by
  refine UnitSet.ext (width_merge m other) (Finset.ext fun u => ?_)
  have hframe : m.isSet u = true → u < m.width := lt_width_of_isSet
  rw [mem_unitSet, isSet_merge, UnitSet.mem_unite, mem_unitSet, mem_unitSet, width_unitSet]
  simp only [Bool.and_eq_true, decide_eq_true_eq, Bool.or_eq_true]
  tauto

theorem unitSet_resized (m : Mask) (width : Nat) :
    (m.resized width).unitSet = m.unitSet.restrict width := by
  refine UnitSet.ext (width_resized m width) (Finset.ext fun u => ?_)
  rw [mem_unitSet, isSet_resized, UnitSet.mem_restrict, mem_unitSet]
  simp [and_comm]

/-- Setting a unit of the frame answers whether the set gains by it. -/
theorem set_of_lt {m : Mask} {unit : Nat} (h : unit < m.unitSet.width) :
    m.set unit =
      .ok (m.put unit true, decide ((m.unitSet.insert unit h).units ≠ m.unitSet.units)) := by
  have hchanged : (m.isSet unit != true) =
      decide ((m.unitSet.insert unit h).units ≠ m.unitSet.units) := by
    rw [Bool.eq_iff_iff, decide_eq_true_eq, UnitSet.insert_ne_iff, mem_unitSet, bne_iff_ne]
  rw [set, assign, ← width_unitSet, if_pos h, hchanged]

/-- Clearing a unit of the frame answers whether the set loses by it. -/
theorem clear_of_lt {m : Mask} {unit : Nat} (h : unit < m.unitSet.width) :
    m.clear unit =
      .ok (m.put unit false, decide ((m.unitSet.erase unit).units ≠ m.unitSet.units)) := by
  have hchanged : (m.isSet unit != false) =
      decide ((m.unitSet.erase unit).units ≠ m.unitSet.units) := by
    rw [Bool.eq_iff_iff, decide_eq_true_eq, UnitSet.erase_ne_iff, mem_unitSet, bne_iff_ne,
      Bool.ne_false_iff]
  rw [clear, assign, ← width_unitSet, if_pos h, hchanged]

/-- A unit outside the frame is neither set nor cleared. -/
theorem assign_of_not_lt {m : Mask} {unit : Nat} (h : ¬unit < m.unitSet.width) (held : Bool) :
    m.assign unit held = .error (.unitOutside unit m.unitSet.width) := by
  rw [assign, ← width_unitSet, if_neg h]

/-- **One change of a mask is that change of its set**, and both answer the same. -/
theorem unitSet_perform (m : Mask) (change : UnitChange Mask) :
    m.unitSet.perform (change.map unitSet) =
      ((m.perform change).1.unitSet, (m.perform change).2) := by
  cases change with
  | set unit =>
      simp only [perform, UnitChange.map, UnitSet.perform]
      by_cases h : unit < m.unitSet.width
      · rw [dif_pos h, set_of_lt h, settle, unitSet_put_true h]
      · rw [dif_neg h, set, assign_of_not_lt h, settle]
  | clear unit =>
      simp only [perform, UnitChange.map, UnitSet.perform]
      by_cases h : unit < m.unitSet.width
      · rw [if_pos h, clear_of_lt h, settle, unitSet_put_false]
      · rw [if_neg h, clear, assign_of_not_lt h, settle]
  | merge other => simp only [perform, UnitChange.map, UnitSet.perform, unitSet_merge]
  | resize width => simp only [perform, UnitChange.map, UnitSet.perform, unitSet_resized]

/-! ### Changes in a row -/

theorem unitSet_performAll (m : Mask) (changes : List (UnitChange Mask)) :
    UnitChange.performAll UnitSet.perform m.unitSet (changes.map (·.map unitSet)) =
      ((UnitChange.performAll perform m changes).1.unitSet,
        (UnitChange.performAll perform m changes).2) := by
  induction changes generalizing m with
  | nil => rfl
  | cons change later ih =>
      rw [List.map_cons, UnitChange.performAll, unitSet_perform]
      dsimp only
      rw [ih]
      rfl

/-! ### What is asked of a mask -/

theorem units_eq_sort (m : Mask) : m.units = m.unitSet.units.sort (· ≤ ·) :=
  units_eq (Finset.sortedLT_sort _).pairwise fun unit => by
    rw [Finset.mem_sort, mem_unitSet]

theorem count_eq_card (m : Mask) : m.count = m.unitSet.units.card := by
  rw [← length_units, units_eq_sort, Finset.length_sort]

theorem overlap_eq_sort (m other : Mask) :
    m.overlap other = (m.unitSet.units ∩ other.unitSet.units).sort (· ≤ ·) := by
  refine (overlap_pairwise m other).eq_of_mem_iff (Finset.sortedLT_sort _).pairwise fun unit => ?_
  rw [mem_overlap, Finset.mem_sort, Finset.mem_inter, mem_unitSet, mem_unitSet]

theorem overlap_comm (m other : Mask) : m.overlap other = other.overlap m := by
  rw [overlap_eq_sort, overlap_eq_sort, Finset.inter_comm]

/-- Whatever is asked of the mask is answered by the set. -/
structure Shows (m : Mask) (s : UnitSet) : Prop where
  width : m.width = s.width
  isSet : ∀ unit, m.isSet unit = true ↔ unit ∈ s.units
  units : m.units = s.units.sort (· ≤ ·)
  count : m.count = s.units.card
  isUnassigned : m.isUnassigned = true ↔ s.units = ∅
  first? : ∀ unit, m.first? = some unit ↔ IsLeast (s.units : Set Nat) unit
  last? : ∀ unit, m.last? = some unit ↔ IsGreatest (s.units : Set Nat) unit
  overlap : ∀ other : Mask, m.overlap other = (s.units ∩ other.unitSet.units).sort (· ≤ ·)
  overlap_comm : ∀ other : Mask, m.overlap other = other.overlap m

theorem shows_unitSet (m : Mask) : m.Shows m.unitSet where
  width := rfl
  isSet _ := mem_unitSet.symm
  units := units_eq_sort m
  count := count_eq_card m
  isUnassigned := by
    rw [isUnassigned_iff, Finset.eq_empty_iff_forall_notMem]
    simp
  first? unit := by
    rw [first?_eq_some_iff, IsLeast, mem_lowerBounds]
    simp
  last? unit := by
    rw [last?_eq_some_iff, IsGreatest, mem_upperBounds]
    simp
  overlap := overlap_eq_sort m
  overlap_comm := overlap_comm m

/-- **A mask is a finite set of units inside its width.**  Changes in a row answer on a mask what
they answer on its set, and after each of them the mask shows the set they lead to. -/
theorem acts_as_unitSet (m : Mask) (changes : List (UnitChange Mask)) :
    (UnitChange.performAll perform m changes).2 =
        (UnitChange.performAll UnitSet.perform m.unitSet (changes.map (·.map unitSet))).2 ∧
      ∀ n, (UnitChange.performAll perform m (changes.take n)).1.Shows
        (UnitChange.performAll UnitSet.perform m.unitSet
          ((changes.take n).map (·.map unitSet))).1 := by
  constructor
  · rw [unitSet_performAll]
  · -- What has been done up to a point is a run of its own.
    intro n
    rw [unitSet_performAll]
    exact shows_unitSet _

/-- What was cut off does not come back. -/
example : (UnitChange.performAll perform ⟨[true, true]⟩ [.resize 1, .resize 2]).1 =
    ⟨[true, false]⟩ := rfl

end Mask

end RanSlicing
