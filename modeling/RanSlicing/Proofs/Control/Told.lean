/-
What a decision says of the records, and when that is true.

A decision names what became of its slice's mask and of its policy.  `MaskTold` measures the former
by the store before and after, in both directions: a claim is reported exactly if the mask gained
just that unit, a release exactly if it lost it, and anything else exactly if it reads as it did.
`PolicyTold` does so for the table of the policies.  A proposal that is written moves one unit, so
what a rule reports of it is true whether its write was accepted or refused.
-/
import RanSlicing.Proofs.Control.Heuristic

namespace RanSlicing

open Store

/-! ### Masks that differ in one unit -/

namespace Mask

/-- The second mask holds just one unit more than the first. -/
structure Gains (m n : Mask) (unit : Nat) : Prop where
  width : n.width = m.width
  fresh : m.isSet unit = false
  held : ∀ u, n.isSet u = true ↔ m.isSet u = true ∨ u = unit

variable {m n : Mask} {unit : Nat}

theorem Gains.isSet_self (h : m.Gains n unit) : n.isSet unit = true := (h.held unit).2 (.inr rfl)

theorem Gains.unique (h : m.Gains n unit) {other : Nat} (h' : m.Gains n other) :
    other = unit := by
  rcases (h.held other).1 h'.isSet_self with hheld | heq
  · exact Bool.noConfusion (h'.fresh.symm.trans hheld)
  · exact heq

theorem Gains.asymm (h : m.Gains n unit) (other : Nat) : ¬n.Gains m other := fun h' =>
  Bool.noConfusion (h.fresh.symm.trans ((h'.held unit).2 (.inl h.isSet_self)))

theorem Gains.ne (h : m.Gains n unit) : n ≠ m := by
  rintro rfl
  exact Bool.noConfusion (h.fresh.symm.trans h.isSet_self)

theorem Gains.isSet_ne (h : m.Gains n unit) {u : Nat} (hne : u ≠ unit) :
    n.isSet u = m.isSet u := by
  rw [Bool.eq_iff_iff, h.held u]
  simp [hne]

/-- Without the unit that was gained the masks are one. -/
theorem Gains.put_eq (h : m.Gains n unit) : n.put unit false = m.put unit false := by
  refine ext_isSet (by rw [width_put, width_put, h.width]) fun u => ?_
  by_cases heq : u = unit
  · rw [heq, isSet_put_false, isSet_put_false]
  · simp [isSet_put, heq, h.isSet_ne heq]

theorem gains_put (hfree : m.isSet unit = false) (hlt : unit < m.width) :
    m.Gains (m.put unit true) unit := by
  refine ⟨width_put m unit true, hfree, fun u => ?_⟩
  rw [isSet_put]
  by_cases heq : u = unit
  · simp [heq, hlt]
  · simp [heq]

theorem put_gains (hheld : m.isSet unit = true) : (m.put unit false).Gains m unit := by
  have hlt : unit < m.width := lt_width_of_isSet hheld
  refine ⟨(width_put m unit false).symm, by simp [isSet_put, hlt], fun u => ?_⟩
  rw [isSet_put]
  by_cases heq : u = unit
  · simp [heq, hheld]
  · simp [heq]

end Mask

/-! ### What is said of a mask -/

/-- What became of the mask of the slice, if it came to that. -/
def Outcome.maskChange? : Outcome → Option MaskChange
  | .skipped _ => none
  | .evaluated found => some found.mask

/-- Neither a claim nor a release. -/
def Still (change : Option MaskChange) : Prop :=
  ∀ unit, change ≠ some (.claimed unit) ∧ change ≠ some (.released unit)

theorem still_none : Still none := by simp [Still]

namespace Proposal

variable {pool : Pool} {masks : List Mask} {slice unit : Nat} {mask : Mask} {change : MaskChange}

/-- A proposal that is written claims its unit and adds just that above the band, or releases it and
takes just that away below. -/
theorem moves_of_write {verdict : Verdict} (hslice : slice < masks.length)
    (h : ofVerdict pool masks slice unit verdict = .write mask change) :
    verdict = .above ∧ change = .claimed unit ∧ masks[slice].Gains mask unit ∨
      verdict = .below ∧ change = .released unit ∧ mask.Gains masks[slice] unit := by
  cases verdict with
  | above =>
      obtain ⟨-, hnone, rfl, rfl, hwidth⟩ := claim_eq_write hslice h
      exact .inl ⟨rfl, rfl, Mask.gains_put (hnone _ (List.getElem_mem hslice)) hwidth⟩
  | below =>
      obtain ⟨-, hheld, rfl, rfl⟩ := release_eq_write hslice h
      exact .inr ⟨rfl, rfl, Mask.put_gains hheld⟩
  | within => simp [ofVerdict] at h

/-- A proposal that is not written reports neither. -/
theorem still_of_settled {verdict : Verdict}
    (h : ofVerdict pool masks slice unit verdict = .settled change) : Still (some change) := by
  have hcases : change = .unchanged ∨ change = .outOfPool unit ∨
      ∃ owner, change = .contested unit owner := by
    cases verdict with
    | above =>
        simp only [ofVerdict, claim] at h
        grind
    | below =>
        simp only [ofVerdict, release] at h
        grind
    | within => exact .inl (Proposal.settled.inj h).symm
  rcases hcases with rfl | rfl | ⟨owner, rfl⟩ <;> simp [Still]

end Proposal

section

variable {σ : Type} [Store σ] {s t : σ} {slice unit : Nat} {change : Option MaskChange}

/-- The mask of the slice holds just one unit more than it did. -/
def Gained (s t : σ) (slice unit : Nat) : Prop :=
  ∃ m n, readMask s slice = .ok m ∧ readMask t slice = .ok n ∧ m.Gains n unit

theorem Gained.unique (h : Gained s t slice unit) {other : Nat} (h' : Gained s t slice other) :
    other = unit := by
  obtain ⟨m, n, hm, hn, hgains⟩ := h
  obtain ⟨m', n', hm', hn', hgains'⟩ := h'
  obtain rfl : m = m' := Except.ok.inj (hm.symm.trans hm')
  obtain rfl : n = n' := Except.ok.inj (hn.symm.trans hn')
  exact hgains.unique hgains'

theorem Gained.asymm (h : Gained s t slice unit) (other : Nat) : ¬Gained t s slice other := by
  rintro ⟨n', m', hn', hm', hgains'⟩
  obtain ⟨m, n, hm, hn, hgains⟩ := h
  obtain rfl : m = m' := Except.ok.inj (hm.symm.trans hm')
  obtain rfl : n = n' := Except.ok.inj (hn.symm.trans hn')
  exact hgains.asymm other hgains'

theorem Gained.ne (h : Gained s t slice unit) : readMask t slice ≠ readMask s slice := by
  obtain ⟨m, n, hm, hn, hgains⟩ := h
  rw [hm, hn]
  exact fun heq => hgains.ne (Except.ok.inj heq)

/-- What is said of the mask is what became of it. -/
structure MaskTold (s t : σ) (slice : Nat) (change : Option MaskChange) : Prop where
  claimed : ∀ unit, change = some (.claimed unit) ↔ Gained s t slice unit
  released : ∀ unit, change = some (.released unit) ↔ Gained t s slice unit
  still : Still change ↔ readMask t slice = readMask s slice

theorem MaskTold.of_still (hchange : Still change) (h : readMask t slice = readMask s slice) :
    MaskTold s t slice change where
  claimed unit := iff_of_false (hchange unit).1 fun hgained => hgained.ne h
  released unit := iff_of_false (hchange unit).2 fun hgained => hgained.ne h.symm
  still := iff_of_true hchange h

theorem MaskTold.of_claimed (h : Gained s t slice unit) :
    MaskTold s t slice (some (.claimed unit)) where
  claimed other := ⟨fun heq => by cases heq; exact h, fun h' => by rw [h.unique h']⟩
  released other := iff_of_false (by simp) (h.asymm other)
  still := iff_of_false (fun hstill => (hstill unit).1 rfl) h.ne

theorem MaskTold.of_released (h : Gained t s slice unit) :
    MaskTold s t slice (some (.released unit)) where
  claimed other := iff_of_false (by simp) (h.asymm other)
  released other := ⟨fun heq => by cases heq; exact h, fun h' => by rw [h.unique h']⟩
  still := iff_of_false (fun hstill => (hstill unit).2 rfl) h.ne.symm

/-- What is said of one mask is not about the others. -/
theorem MaskTold.congr {s' t' : σ} (h : MaskTold s t slice change)
    (hs : readMask s' slice = readMask s slice) (ht : readMask t' slice = readMask t slice) :
    MaskTold s' t' slice change where
  claimed unit := by simpa only [Gained, hs, ht] using h.claimed unit
  released unit := by simpa only [Gained, hs, ht] using h.released unit
  still := by simpa only [hs, ht] using h.still

end

/-! ### What is said of a policy -/

/-- What is said of the slice's policy is how the tables differ there. -/
structure PolicyTold (old new : PolicyTable) (slice : Nat) (change : Option PolicyChange) :
    Prop where
  /-- Nothing is said of a policy that is as it was. -/
  same : change = none → new.get? slice = old.get? slice
  switched : ∀ c, change = some c →
    old.inForce slice = c.previous ∧ new.inForce slice = c.current ∧ c.previous ≠ c.current

/-- A switch is said of exactly the policies that differ in force. -/
theorem PolicyTold.isSome_iff {old new : PolicyTable} {slice : Nat} {change : Option PolicyChange}
    (h : PolicyTold old new slice change) :
    change.isSome = true ↔ new.inForce slice ≠ old.inForce slice := by
  cases change with
  | none =>
      have hsame : new.inForce slice = old.inForce slice := by
        rw [PolicyTable.inForce, PolicyTable.inForce, h.same rfl]
      simp [hsame]
  | some c =>
      obtain ⟨hprevious, hcurrent, hne⟩ := h.switched c rfl
      rw [hprevious, hcurrent]
      simpa using hne.symm

theorem PolicyTold.congr {old new new' : PolicyTable} {slice : Nat}
    {change : Option PolicyChange} (h : PolicyTold old new slice change)
    (hnew : new'.get? slice = new.get? slice) : PolicyTold old new' slice change where
  same hnone := hnew.trans (h.same hnone)
  switched c hc := by
    obtain ⟨hprevious, hcurrent, hne⟩ := h.switched c hc
    refine ⟨hprevious, ?_, hne⟩
    rw [PolicyTable.inForce, hnew]
    exact hcurrent

/-- The table with a switch carried out, if there is one. -/
def PolicyTable.switched (table : PolicyTable) (slice : Nat) : Option PolicyChange → PolicyTable
  | none => table
  | some change => table.insert slice change.current

theorem PolicyTable.get?_switched_ne (table : PolicyTable) {slice other : Nat}
    (h : other ≠ slice) (change : Option PolicyChange) :
    (table.switched slice change).get? other = table.get? other := by
  cases change with
  | none => rfl
  | some change => exact SortedMap.get?_insert_ne table change.current h

theorem Verdict.policyTold {old table : PolicyTable} {slice : Nat}
    (h : table.get? slice = old.get? slice) (verdict : Verdict) (userCount : Nat) :
    PolicyTold old (table.switched slice (verdict.policyChange? table slice userCount)) slice
      (verdict.policyChange? table slice userCount) := by
  have hforce : table.inForce slice = old.inForce slice := by
    rw [PolicyTable.inForce, PolicyTable.inForce, h]
  cases hchange : verdict.policyChange? table slice userCount with
  | none => exact ⟨fun _ => h, fun c hc => by cases hc⟩
  | some change =>
      refine ⟨by simp, fun c hc => ?_⟩
      obtain rfl := Option.some.inj hc
      unfold policyChange? at hchange
      split at hchange
      · cases hchange
      · split at hchange
        · rename_i target _ hswitch
          obtain rfl := Option.some.inj hchange
          refine ⟨hforce.symm, ?_, hswitch.2⟩
          simp [PolicyTable.switched, PolicyTable.inForce]
        · cases hchange

end RanSlicing
