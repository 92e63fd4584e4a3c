/-
A mask is the set of its units.

Whatever an operation does to the bits of a mask is said here once in terms of `isSet`, together
with the width it leaves.  No later proof looks at the bits again.
-/
import Mathlib.Data.List.Basic
import RanSlicing.Pool
import RanSlicing.Proofs.Except

namespace RanSlicing

namespace Mask

/-! ### Widths -/

@[simp] theorem width_unassigned (width : Nat) : (unassigned width).width = width := by
  simp [unassigned, Mask.width]

@[simp] theorem width_put (m : Mask) (unit : Nat) (held : Bool) :
    (m.put unit held).width = m.width := by
  simp [put, Mask.width]

@[simp] theorem width_merge (m other : Mask) : (m.merge other).width = m.width := by
  simp [merge, Mask.width]

@[simp] theorem width_resized (m : Mask) (width : Nat) : (m.resized width).width = width := by
  simp only [resized, Mask.width, List.length_append, List.length_take, List.length_replicate]
  omega

/-- A unit is held if its bit is on. -/
theorem isSet_iff_getElem? {m : Mask} {unit : Nat} :
    m.isSet unit = true ↔ m.bits[unit]? = some true := by
  rw [isSet, List.getD_eq_getElem?_getD]
  cases m.bits[unit]? with
  | none => simp
  | some held => simp

/-- A unit that is held lies in the frame. -/
theorem lt_width_of_isSet {m : Mask} {unit : Nat} (h : m.isSet unit = true) :
    unit < m.width :=
  (List.getElem?_eq_some_iff.1 (isSet_iff_getElem?.1 h)).1

/-- A unit that is held is not one that is not. -/
theorem ne_of_isSet {m : Mask} {a b : Nat} (ha : m.isSet a = true) (hb : m.isSet b = false) :
    a ≠ b := by
  rintro rfl
  exact Bool.eq_false_iff.1 hb ha

/-- Two masks of one width that hold the same units are one mask. -/
theorem ext_isSet {m n : Mask} (hwidth : m.width = n.width)
    (h : ∀ unit, m.isSet unit = n.isSet unit) : m = n := by
  obtain ⟨bits⟩ := m
  obtain ⟨bits'⟩ := n
  have hbits : bits = bits' := by
    refine List.ext_getElem hwidth fun i hi hi' => ?_
    have := h i
    simpa [isSet, List.getD_eq_getElem?_getD, hi, hi'] using this
  rw [hbits]

/-! ### What is held after an operation -/

@[simp] theorem isSet_unassigned (width unit : Nat) : (unassigned width).isSet unit = false := by
  simp only [unassigned, isSet, List.getD_eq_getElem?_getD, List.getElem?_replicate]
  split <;> rfl

theorem isSet_put (m : Mask) (u v : Nat) (held : Bool) :
    (m.put v held).isSet u = if u = v ∧ u < m.width then held else m.isSet u := by
  simp only [put, isSet, List.getD_eq_getElem?_getD, Mask.width]
  by_cases huv : u = v
  · subst huv
    by_cases hu : u < m.bits.length
    · simp [hu]
    · simp [List.set_eq_of_length_le (Nat.le_of_not_lt hu), hu]
  · have hvu : ¬v = u := fun h => huv h.symm
    simp [huv, hvu]

theorem isSet_put_false (m : Mask) (unit : Nat) : (m.put unit false).isSet unit = false := by
  rw [isSet_put]
  split
  · rfl
  · rename_i hout
    by_contra hset
    exact hout ⟨rfl, lt_width_of_isSet (by simpa using hset)⟩

theorem isSet_merge (m other : Mask) (unit : Nat) :
    (m.merge other).isSet unit =
      (decide (unit < m.width) && (m.isSet unit || other.isSet unit)) := by
  by_cases hu : unit < m.width
  · have hlt : unit < m.bits.length := hu
    simp [merge, isSet, List.getD_eq_getElem?_getD, hlt, hu]
  · have hge : m.bits.length ≤ unit := Nat.le_of_not_lt hu
    simp [merge, isSet, List.getD_eq_getElem?_getD, hge, hu]

/-- A unit that the other one does not hold is held as before. -/
theorem isSet_merge_of_not {m other : Mask} {unit : Nat} (h : other.isSet unit = false) :
    (m.merge other).isSet unit = m.isSet unit := by
  rw [isSet_merge, h, Bool.or_false]
  by_cases hset : m.isSet unit = true
  · simp [hset, lt_width_of_isSet hset]
  · simp [hset]

/-- Masks that are merged into one count as far as its width reaches. -/
theorem isSet_foldl_merge (unit : Nat) :
    ∀ (masks : List Mask) (m : Mask),
      (masks.foldl merge m).isSet unit =
        (m.isSet unit || decide (unit < m.width) && masks.any (·.isSet unit)) := by
  intro masks
  induction masks with
  | nil => intro m; simp
  | cons first rest ih =>
      intro m
      rw [List.foldl_cons, ih, isSet_merge, width_merge, List.any_cons]
      by_cases hlt : unit < m.width
      · simp [hlt, Bool.or_assoc]
      · have hfalse : m.isSet unit = false := by
          by_contra hset
          exact hlt (lt_width_of_isSet (by simpa using hset))
        simp [hlt, hfalse]

theorem isSet_resized (m : Mask) (width unit : Nat) :
    (m.resized width).isSet unit = (decide (unit < width) && m.isSet unit) := by
  simp only [resized, isSet, List.getD_eq_getElem?_getD, Mask.width]
  by_cases hm : unit < (m.bits.take width).length
  · have hboth : unit < width ∧ unit < m.bits.length := by
      rw [List.length_take] at hm
      omega
    rw [List.getElem?_append_left hm, List.getElem?_take_of_lt hboth.1]
    simp [hboth.1]
  · have hzero : ((m.bits.take width ++
        List.replicate (width - m.bits.length) false)[unit]?).getD false = false := by
      rw [List.getElem?_append_right (Nat.le_of_not_lt hm), List.getElem?_replicate]
      split <;> rfl
    rw [hzero]
    by_cases hw : unit < width
    · have hge : m.bits.length ≤ unit := by
        simp only [List.length_take] at hm
        omega
      simp [hge]
    · simp [hw]

/-- A mask of the wanted width is not changed by resizing. -/
theorem resized_eq_self {m : Mask} {width : Nat} (h : m.width = width) :
    m.resized width = m := by
  refine ext_isSet (by rw [width_resized, h]) fun unit => ?_
  rw [isSet_resized]
  by_cases hu : m.isSet unit = true
  · have := lt_width_of_isSet hu
    simp [hu, ← h, this]
  · simp [hu]

theorem resized_unassigned (n width : Nat) :
    (unassigned n).resized width = unassigned width := by
  refine ext_isSet (by rw [width_resized, width_unassigned]) fun unit => ?_
  rw [isSet_resized, isSet_unassigned, isSet_unassigned, Bool.and_false]

theorem isUnassigned_iff {m : Mask} :
    m.isUnassigned = true ↔ ∀ unit, m.isSet unit = false := by
  have hany : m.bits.any id = true ↔ ∃ unit, m.isSet unit = true := by
    simp only [isSet_iff_getElem?, ← List.mem_iff_getElem?, List.any_eq_true, id_eq,
      exists_eq_right]
  rw [isUnassigned, Bool.not_eq_true', ← Bool.not_eq_true, hany, not_exists]
  simp only [Bool.not_eq_true]

theorem mem_freeBelow {m : Mask} {limit unit : Nat} :
    unit ∈ m.freeBelow limit ↔ unit < limit ∧ m.isSet unit = false := by
  simp [freeBelow]

/-! ### Masks of listed units -/

/-- The units of a list that are put into a mask one after the other. -/
theorem isSet_foldl_put (held : Bool) (unit : Nat) :
    ∀ (units : List Nat) (m : Mask),
      (units.foldl (fun m u => m.put u held) m).isSet unit =
        if unit ∈ units ∧ unit < m.width then held else m.isSet unit := by
  intro units
  induction units with
  | nil => intro m; simp
  | cons u rest ih =>
      intro m
      rw [List.foldl_cons, ih, width_put, isSet_put]
      by_cases hw : unit < m.width
      · by_cases hu : unit = u
        · subst hu
          simp [hw]
        · simp [hu, hw]
      · simp [hw]

theorem width_foldl_put (held : Bool) :
    ∀ (units : List Nat) (m : Mask),
      (units.foldl (fun m u => m.put u held) m).width = m.width := by
  intro units
  induction units with
  | nil => intro m; rfl
  | cons u rest ih => intro m; rw [List.foldl_cons, ih, width_put]

/-- Setting listed units one after the other succeeds while they are in the frame. -/
theorem foldlM_set_of_lt :
    ∀ (units : List Nat) (m : Mask), (∀ u ∈ units, u < m.width) →
      units.foldlM (fun m u => (m.set u).map (·.1)) m =
        .ok (units.foldl (fun m u => m.put u true) m) := by
  intro units
  induction units with
  | nil => intro m _; rfl
  | cons u rest ih =>
      intro m h
      have hu : u < m.width := h u (by simp)
      have hrest : ∀ v ∈ rest, v < (m.put u true).width := by
        intro v hv
        rw [width_put]
        exact h v (by simp [hv])
      rw [List.foldlM_cons, List.foldl_cons, ← ih _ hrest]
      simp [set, assign, hu, Except.map, bind, Except.bind]

/-- **A mask of listed units holds just those units.** -/
theorem ofUnits_of_lt {width : Nat} {units : List Nat} (h : ∀ u ∈ units, u < width) :
    ∃ m, ofUnits width units = .ok m ∧ m.width = width ∧
      ∀ unit, m.isSet unit = true ↔ unit ∈ units := by
  refine ⟨_, foldlM_set_of_lt units (unassigned width) (by simpa using h), ?_, fun unit => ?_⟩
  · rw [width_foldl_put, width_unassigned]
  · rw [isSet_foldl_put, width_unassigned, isSet_unassigned]
    constructor
    · intro hset
      by_contra hmem
      simp [hmem] at hset
    · intro hmem
      simp [hmem, h unit hmem]

theorem width_of_set {m m' : Mask} {unit : Nat} {changed : Bool}
    (h : m.set unit = .ok (m', changed)) : m'.width = m.width := by
  unfold set assign at h
  split at h
  · cases h
    exact width_put m unit true
  · cases h

/-- Whatever units are listed, a mask that is made of them has the width asked for. -/
theorem width_of_ofUnits {width : Nat} {units : List Nat} {mask : Mask}
    (h : ofUnits width units = .ok mask) : mask.width = width := by
  have hfold : ∀ (units : List Nat) (start : Mask),
      units.foldlM (fun m unit => (m.set unit).map (·.1)) start = .ok mask →
        mask.width = start.width := by
    intro units
    induction units with
    | nil =>
        intro start h
        rw [← Except.ok.inj h]
    | cons unit rest ih =>
        intro start h
        obtain ⟨m, hm, hrest⟩ := bind_eq_ok_iff.1 h
        obtain ⟨⟨m', changed⟩, hset, rfl⟩ := map_eq_ok_iff.1 hm
        rw [ih _ hrest]
        exact width_of_set hset
  rw [hfold units _ h, width_unassigned]

/-- No unit is held by both. -/
def Disjoint (m n : Mask) : Prop := ∀ unit, m.isSet unit = true → n.isSet unit = false

end Mask

/-! ### Masks of a pool -/

/-- The mask of the pool's width holds only units that can be claimed. -/
structure Pool.Bounds (pool : Pool) (mask : Mask) : Prop where
  width : mask.width = pool.size
  below : ∀ unit, mask.isSet unit = true → unit < pool.limit

theorem Pool.limit_le_size {pool : Pool} (h : pool.validate = .ok ()) :
    pool.limit ≤ pool.size := by
  unfold validate at h
  split at h
  · simp at h
  · split at h
    · simp at h
    · rename_i hlt
      exact Nat.le_of_not_lt hlt

end RanSlicing
