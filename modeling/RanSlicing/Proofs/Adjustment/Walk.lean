/-
A move is made one unit at a time.

`adjust` names the units that change hands all at once.  Here they change hands one after the
other: growing looks at each unit on its way and takes it if one is still wanted and this one is
free, and shrinking lets the highest unit go while there are too many.  A unit that was taken does
not make a later one less free, since the way passes each unit once, so the walk takes what a
filter of the whole way takes, up to the number that is wanted (`foldl_takeUnit`).  The highest
unit of what is left is the last but one before, so letting go runs down the list of units
(`letGo_spec`).
-/
import RanSlicing.Proofs.Adjustment

namespace RanSlicing

namespace Mask

/-- Free units count once they are held. -/
theorem count_foldl_put {m : Mask} {units : List Nat} (hnodup : units.Nodup)
    (hfree : ∀ unit ∈ units, unit < m.width ∧ m.isSet unit = false) :
    (units.foldl (fun m unit => m.put unit true) m).count = m.count + units.length := by
  refine count_eq_add hnodup (fun unit hunit => (hfree unit hunit).2) fun unit => ?_
  rw [isSet_foldl_put]
  by_cases hunit : unit ∈ units
  · simp [hunit, (hfree unit hunit).1]
  · simp [hunit]

/-- Letting the highest unit go leaves the units before it. -/
theorem units_put_last {m : Mask} {unit : Nat} (h : m.last? = some unit) :
    (m.put unit false).units = m.units.dropLast := by
  have hsplit : m.units.dropLast ++ [unit] = m.units := List.dropLast_append_getLast? unit h
  have hascending := units_pairwise m
  refine units_eq (hascending.sublist (List.dropLast_sublist _)) fun other => ?_
  rw [← hsplit, List.pairwise_append] at hascending
  have hmember : m.isSet other = true ↔ other ∈ m.units.dropLast ∨ other = unit := by
    rw [← mem_units, ← List.mem_singleton, ← List.mem_append, hsplit]
  by_cases heq : other = unit
  · subst heq
    rw [isSet_put_false]
    refine iff_of_false Bool.false_ne_true fun hbefore => ?_
    exact Nat.lt_irrefl _ (hascending.2.2 _ hbefore _ (List.mem_singleton_self _))
  · rw [isSet_put, if_neg (fun h => heq h.1), hmember]
    simp [heq]

theorem count_put_last {m : Mask} {unit : Nat} (h : m.last? = some unit) :
    (m.put unit false).count + 1 = m.count := by
  have hne : m.units ≠ [] := by
    rintro hnil
    rw [last?, hnil] at h
    cases h
  have hpos := List.length_pos_iff.2 hne
  rw [← length_units, ← length_units, units_put_last h, List.length_dropLast]
  omega

end Mask

namespace Adjustment

/-- A mask on its way, and the units that were moved so far. -/
structure Progress where
  mask : Mask
  moved : List Nat

/-! ### Growing -/

/-- Takes a unit, unless there are enough or this one cannot be had. -/
def takeUnit (occupied : Mask) (target bound : Nat) (p : Progress) (unit : Nat) : Progress :=
  if p.mask.count = target ∨ bound ≤ unit ∨ occupied.isSet unit = true ∨
      p.mask.isSet unit = true then p
  else ⟨p.mask.put unit true, p.moved ++ [unit]⟩

/-- The units that a growing slice looks at: from its lowest one up, then from there down. -/
def way (current : Mask) (bound : Nat) : List Nat :=
  let start := current.first?.elim 0 (· + 1)
  List.range' start (bound - start) ++ (List.range (current.first?.getD 0)).reverse

/-- Whether a unit can be had. -/
def isFree (occupied : Mask) (bound : Nat) (m : Mask) (unit : Nat) : Bool :=
  unit < bound && !occupied.isSet unit && !m.isSet unit

variable {current occupied : Mask} {target bound : Nat} {pool : Pool}

theorem isFree_iff {m : Mask} {unit : Nat} :
    isFree occupied bound m unit = true ↔
      unit < bound ∧ occupied.isSet unit = false ∧ m.isSet unit = false := by
  simp [isFree, and_assoc]

/-- One step of the walk. -/
theorem takeUnit_cases (occupied : Mask) (target bound : Nat) (p : Progress) (unit : Nat) :
    p.mask.count ≠ target ∧ isFree occupied bound p.mask unit = true ∧
        takeUnit occupied target bound p unit = ⟨p.mask.put unit true, p.moved ++ [unit]⟩ ∨
      (p.mask.count = target ∨ isFree occupied bound p.mask unit = false) ∧
        takeUnit occupied target bound p unit = p := by
  unfold takeUnit
  split
  · rename_i hstay
    refine .inr ⟨?_, rfl⟩
    rw [← Bool.not_eq_true, isFree_iff]
    grind
  · rename_i hgo
    refine .inl ⟨fun h => hgo (.inl h), ?_, rfl⟩
    rw [isFree_iff]
    grind

/-- **The walk takes the free units of its way, up to the number that is wanted.** -/
theorem foldl_takeUnit (occupied : Mask) :
    ∀ (units : List Nat) (p : Progress), units.Nodup → p.mask.count ≤ target →
      bound ≤ p.mask.width →
      let taken := (units.filter (isFree occupied bound p.mask)).take (target - p.mask.count)
      units.foldl (takeUnit occupied target bound) p =
        ⟨taken.foldl (fun m unit => m.put unit true) p.mask, p.moved ++ taken⟩ := by
  intro units
  induction units with
  | nil => intro p _ _ _; simp
  | cons unit rest ih =>
      intro p hnodup hcount hbound
      obtain ⟨hfresh, hrest⟩ := List.nodup_cons.1 hnodup
      rw [List.foldl_cons]
      rcases takeUnit_cases occupied target bound p unit with ⟨hwanted, hfree, hstep⟩ |
        ⟨hstay, hstep⟩
      · obtain ⟨hlt, -, hunheld⟩ := isFree_iff.1 hfree
        have hnext : (p.mask.put unit true).count = p.mask.count + 1 :=
          Mask.count_foldl_put (List.nodup_singleton unit)
            (by simpa using ⟨Nat.lt_of_lt_of_le hlt hbound, hunheld⟩)
        -- The unit is not met again, so the others are as free as they were.
        have hothers : rest.filter (isFree occupied bound (p.mask.put unit true)) =
            rest.filter (isFree occupied bound p.mask) := by
          refine List.filter_congr fun other hother => ?_
          have hne : other ≠ unit := fun heq => hfresh (heq ▸ hother)
          rw [isFree, isFree, Mask.isSet_put, if_neg (fun h => hne h.1)]
        rw [hstep, ih _ hrest (by rw [hnext]; omega) (by rw [Mask.width_put]; exact hbound)]
        simp only [hothers, hnext, List.filter_cons_of_pos hfree]
        rw [show target - p.mask.count = target - (p.mask.count + 1) + 1 by omega,
          List.take_succ_cons, List.foldl_cons, List.append_assoc, List.singleton_append]
      · rw [hstep, ih p hrest hcount hbound]
        rcases hstay with henough | hblocked
        · simp [henough]
        · simp [hblocked]

/-- Growing by walking the way. -/
def growWalk (current occupied : Mask) (target : Nat) (pool : Pool) : Adjustment :=
  let bound := min pool.limit current.width
  let p := (way current bound).foldl (takeUnit occupied target bound) ⟨current, []⟩
  { mask := p.mask
    outcome := if p.mask.count = target then .grown p.moved
      else .insufficient p.moved p.mask.count target }

/-- What the way offers are the candidates. -/
theorem filter_way (current occupied : Mask) (bound : Nat) :
    (way current bound).filter (isFree occupied bound current) =
      candidates current occupied bound := by
  unfold way candidates
  cases current.first? with
  | none =>
      show List.filter _ (List.range' 0 (bound - 0) ++ _) = _
      rw [Nat.sub_zero, ← List.range_eq_range']
      rfl
  | some first =>
      have hup : List.range' (first + 1) (bound - (first + 1)) =
          (List.range bound).filter (first < ·) := by
        refine List.Pairwise.eq_of_mem_iff (List.pairwise_lt_range' 1)
          (List.pairwise_lt_range.filter _) fun unit => ?_
        rw [List.mem_range'_1, List.mem_filter, List.mem_range, decide_eq_true_eq]
        omega
      show List.filter _ (List.range' (first + 1) (bound - (first + 1)) ++ _) = _
      rw [hup]
      rfl

theorem way_nodup (current : Mask) (bound : Nat) : (way current bound).Nodup := by
  unfold way
  refine List.nodup_append.2 ⟨List.nodup_range' 1, List.nodup_reverse.2 List.nodup_range, ?_⟩
  intro up hup down hdown
  rw [List.mem_range'_1] at hup
  rw [List.mem_reverse, List.mem_range] at hdown
  cases hfirst : current.first? with
  | none =>
      rw [hfirst] at hdown
      exact absurd hdown (Nat.not_lt_zero down)
  | some first =>
      rw [hfirst] at hup hdown
      simp only [Option.elim_some, Option.getD_some] at hup hdown
      omega

theorem grow_eq_growWalk (h : current.count ≤ target) :
    grow current occupied target pool = growWalk current occupied target pool := by
  have hwalk := foldl_takeUnit occupied (way current (min pool.limit current.width)) ⟨current, []⟩
    (way_nodup ..) h (Nat.min_le_right pool.limit current.width)
  have hcount : (((candidates current occupied (min pool.limit current.width)).take
      (target - current.count)).foldl (fun m unit => m.put unit true) current).count =
        current.count + ((candidates current occupied (min pool.limit current.width)).take
          (target - current.count)).length := by
    refine Mask.count_foldl_put ?_ fun unit hunit => ?_
    · rw [candidates_eq]
      exact (takingOrder_nodup ..).sublist (List.take_sublist _ _)
    · have hfree := mem_candidates (List.mem_of_mem_take hunit)
      exact ⟨by omega, hfree.2.2⟩
  simp only [filter_way, List.nil_append] at hwalk
  simp only [growWalk, grow, hwalk, hcount]

/-! ### Shrinking -/

/-- Lets the highest unit go while there are more than wanted. -/
def letGo (target : Nat) (p : Progress) : Progress :=
  if target < p.mask.count then
    match _hlast : p.mask.last? with
    | none => p
    | some unit => letGo target ⟨p.mask.put unit false, p.moved ++ [unit]⟩
  else p
termination_by p.mask.count
decreasing_by
  have := Mask.count_put_last _hlast
  show (p.mask.put unit false).count < p.mask.count
  omega

/-- **Letting go leaves the lowest units**, and lists the others from the highest down. -/
theorem letGo_spec (target : Nat) (p : Progress) (h : target ≤ p.mask.count) :
    (letGo target p).mask.width = p.mask.width ∧
      (letGo target p).mask.units = p.mask.units.take target ∧
      (letGo target p).moved = p.moved ++ (p.mask.units.drop target).reverse := by
  fun_induction letGo target p with
  | case1 p hmore hnone =>
      have hlength := Mask.length_units p.mask
      rw [List.getLast?_eq_none_iff.1 hnone, List.length_nil] at hlength
      omega
  | case2 p hmore unit hlast ih =>
      have hcount := Mask.count_put_last hlast
      obtain ⟨hwidth, hunits, hmoved⟩ := ih (by show target ≤ (p.mask.put unit false).count; omega)
      have hsplit : p.mask.units = p.mask.units.dropLast ++ [unit] :=
        (List.dropLast_append_getLast? unit hlast).symm
      have hroom : target ≤ p.mask.units.dropLast.length := by
        rw [List.length_dropLast, Mask.length_units]
        omega
      refine ⟨hwidth.trans (Mask.width_put ..), ?_, ?_⟩
      · rw [hunits, Mask.units_put_last hlast, hsplit, List.dropLast_concat,
          List.take_append_of_le_length hroom]
      · rw [hmoved, Mask.units_put_last hlast, hsplit, List.dropLast_concat,
          List.drop_append_of_le_length hroom, List.reverse_append, List.append_assoc]
        rfl
  | case3 p hmore =>
      have hall : p.mask.units.length ≤ target := by
        rw [Mask.length_units]
        omega
      rw [List.take_of_length_le hall, List.drop_of_length_le hall]
      simp

/-- Shrinking by letting the highest unit go. -/
def shrinkWalk (current : Mask) (target : Nat) : Adjustment :=
  let p := letGo target ⟨current, []⟩
  { mask := p.mask, outcome := .shrunk p.moved }

theorem shrink_eq_shrinkWalk (h : target ≤ current.count) :
    shrink current target = shrinkWalk current target := by
  obtain ⟨hwidth, hunits, hmoved⟩ := letGo_spec target ⟨current, []⟩ h
  have hmask : (shrink current target).mask = (letGo target ⟨current, []⟩).mask :=
    Mask.ext_units ((Mask.width_foldl_put ..).trans hwidth.symm)
      ((Mask.units_shrink h).trans hunits.symm)
  have houtcome := Mask.outcome_shrink h
  rw [List.nil_append] at hmoved
  rw [shrinkWalk, ← hmask, hmoved, ← houtcome]

/-! ### Both -/

/-- A move made one unit at a time. -/
def walk (current occupied : Mask) (target : Nat) (pool : Pool) : Adjustment :=
  if current.count = target then ⟨current, .unchanged⟩
  else if target < current.count then shrinkWalk current target
  else growWalk current occupied target pool

/-- **A move is what moving one unit at a time comes to**, with the units in the order in which
they were moved. -/
theorem adjust_eq_walk (current occupied : Mask) (target : Nat) (pool : Pool) :
    current.adjust occupied target pool = walk current occupied target pool := by
  unfold Mask.adjust walk
  split
  · rfl
  · split
    · rename_i hmore
      exact shrink_eq_shrinkWalk (Nat.le_of_lt hmore)
    · exact grow_eq_growWalk (by omega)

end Adjustment

end RanSlicing
