/-
A store that refuses what it is told to refuse.

The laws leave open which writes a store accepts, and a store in memory accepts all or none.
`Fickle` lays a script beside a store in which it is written of each write to come whether it is
refused, so that any pattern of failures comes about.  A write that is refused does not reach the
store inside, and the laws are kept whatever the script says.
-/
import RanSlicing.Proofs.Store.Laws

namespace RanSlicing

open Store

/-- A store, and whether each of the next writes is refused; after those none is. -/
structure Fickle (σ : Type) where
  store : σ
  script : List Bool

namespace Fickle

variable {σ : Type} [Store σ]

/-- Hands a write on unless the script refuses it. -/
def attempt (f : Fickle σ) (refusal : Fault) (write : σ → Except Fault Unit × σ) :
    Except Fault Unit × Fickle σ :=
  if f.script.headD false then (.error refusal, ⟨f.store, f.script.tail⟩)
  else ((write f.store).1, ⟨(write f.store).2, f.script.tail⟩)

instance : Store (Fickle σ) where
  readMask f := readMask f.store
  hasMask? f := hasMask? f.store
  writeMask f slice mask := f.attempt .maskRejected fun s => writeMask s slice mask
  readPolicies f := readPolicies f.store
  writePolicies f table := f.attempt .policyRejected fun s => writePolicies s table

omit [Store σ] in
theorem attempt_eq_ok {f g : Fickle σ} {refusal : Fault} {write : σ → Except Fault Unit × σ}
    (h : f.attempt refusal write = (.ok (), g)) : write f.store = (.ok (), g.store) := by
  unfold attempt at h
  split at h
  · simp at h
  · obtain ⟨hanswer, rfl⟩ := Prod.mk.inj h
    exact Prod.ext hanswer rfl

omit [Store σ] in
theorem attempt_eq_error {f g : Fickle σ} {refusal e : Fault}
    {write : σ → Except Fault Unit × σ} (h : f.attempt refusal write = (.error e, g)) :
    g.store = f.store ∨ write f.store = (.error e, g.store) := by
  unfold attempt at h
  split at h
  · obtain ⟨-, rfl⟩ := Prod.mk.inj h
    exact .inl rfl
  · obtain ⟨hanswer, rfl⟩ := Prod.mk.inj h
    exact .inr (Prod.ext hanswer rfl)

/-- What the script says makes no difference to what is read. -/
theorem sameRecords {f g : Fickle σ} (h : g.store = f.store) : SameRecords f g := by
  obtain ⟨s, script⟩ := g
  obtain rfl : s = f.store := h
  exact ⟨fun _ => rfl, fun _ => rfl, rfl⟩

end Fickle

namespace Store

variable {σ : Type} [Store σ] {sound : σ → Prop} {fits : Nat → Prop}

/-- **A store keeps its laws when writes are kept from it.** -/
theorem Laws.fickle (laws : Laws sound fits) :
    Laws (σ := Fickle σ) (fun f => sound f.store) fits where
  width_of_readMask hs h := laws.width_of_readMask hs h
  unassigned_of_not_hasMask hs hnone h := laws.unassigned_of_not_hasMask hs hnone h
  mask_accepted hs hfits h := by
    obtain ⟨hsound, hmasks, hrecorded, hpolicies⟩ :=
      laws.mask_accepted hs hfits (Fickle.attempt_eq_ok h)
    exact ⟨hsound, hmasks, hrecorded, hpolicies⟩
  mask_refused {f g slice mask e} hs h := by
    rcases Fickle.attempt_eq_error h with hsame | hrefused
    · exact ⟨hsame ▸ hs, Fickle.sameRecords hsame⟩
    · obtain ⟨hsound, hmasks, hrecorded, hpolicies⟩ := laws.mask_refused hs hrefused
      exact ⟨hsound, hmasks, hrecorded, hpolicies⟩
  policies_accepted hs h := by
    obtain ⟨hsound, hmasks, hrecorded, hpolicies⟩ :=
      laws.policies_accepted hs (Fickle.attempt_eq_ok h)
    exact ⟨hsound, hmasks, hrecorded, hpolicies⟩
  policies_refused {f g table e} hs h := by
    rcases Fickle.attempt_eq_error h with hsame | hrefused
    · exact ⟨hsame ▸ hs, Fickle.sameRecords hsame⟩
    · obtain ⟨hsound, hmasks, hrecorded, hpolicies⟩ := laws.policies_refused hs hrefused
      exact ⟨hsound, hmasks, hrecorded, hpolicies⟩

end Store

end RanSlicing
