/-
A constant load settles.

A rule that has had its way wants nothing more of its mask (`Rule.settled_moved`), so a round that
unsettles a rule does it by another rule, which lets the unit go that the first one was refused
(`Rule.Settled.moved`).  Two rules of different units therefore settle in one round.  If they share
a unit, the first may have to wait: the second releases the unit in one round and the first claims
it in the next, after which neither wants anything.

The masks are followed without the store (`movedBy`).  As long as no write is refused, they and the
policies are what a round leaves on record, and once every rule is at rest the rounds to come write
nothing.
-/
import RanSlicing.Proofs.Control.Rounds
import RanSlicing.Proofs.Store.Memory

namespace RanSlicing

open Store

/-! ### What settles a proposal -/

namespace Proposal

variable {pool : Pool} {masks : List Mask} {slice unit : Nat}

/-- A claim is settled if the unit is out of reach or some slice holds it already. -/
theorem claim_settled_iff (hslice : slice < masks.length) :
    (∃ change, claim pool masks slice unit = .settled change) ↔
      pool.limit ≤ unit ∨ (∃ mask ∈ masks, mask.isSet unit = true) ∨
        masks[slice].width ≤ unit := by
  constructor
  · rintro ⟨change, hclaim⟩
    by_contra hout
    obtain ⟨hlimit, hheld⟩ := not_or.1 hout
    obtain ⟨hnobody, hwidth⟩ := not_or.1 hheld
    have hfree : ∀ mask ∈ masks, mask.isSet unit = false := fun mask hmem => by
      rw [Bool.eq_false_iff]
      exact fun hset => hnobody ⟨mask, hmem, hset⟩
    have hown : masks[slice].isSet unit = false := hfree _ (List.getElem_mem hslice)
    have hnone : masks.findIdx? (·.isSet unit) = none := List.findIdx?_eq_none_iff.2 hfree
    simp [claim, maskOf_eq hslice, hlimit, hown, hnone, Mask.set, Mask.assign,
      Nat.lt_of_not_le hwidth] at hclaim
  · intro hwhy
    cases hclaim : claim pool masks slice unit with
    | settled change => exact ⟨change, rfl⟩
    | write mask change =>
        obtain ⟨hlimit, hfree, -, -, hwidth⟩ := claim_eq_write hslice hclaim
        rcases hwhy with hout | ⟨holder, hmem, hheld⟩ | hnarrow
        · omega
        · exact Bool.noConfusion ((hfree holder hmem).symm.trans hheld)
        · omega

/-- A release is settled if the unit is out of reach or the slice does not hold it. -/
theorem release_settled_iff (hslice : slice < masks.length) :
    (∃ change, release pool masks slice unit = .settled change) ↔
      pool.limit ≤ unit ∨ masks[slice].isSet unit = false := by
  constructor
  · rintro ⟨change, hrelease⟩
    by_contra hout
    obtain ⟨hlimit, hfree⟩ := not_or.1 hout
    have hheld : masks[slice].isSet unit = true := by simpa using hfree
    simp [release, maskOf_eq hslice, hlimit, hheld, Mask.clear, Mask.assign,
      Mask.lt_width_of_isSet hheld] at hrelease
  · intro hwhy
    cases hrelease : release pool masks slice unit with
    | settled change => exact ⟨change, rfl⟩
    | write mask change =>
        obtain ⟨hlimit, hheld, -, -⟩ := release_eq_write hslice hrelease
        rcases hwhy with hout | hfree
        · omega
        · exact Bool.noConfusion (hfree.symm.trans hheld)

end Proposal

/-! ### The masks without the store -/

namespace Rule

variable {rule other : Rule} {tenants : Nat} {snapshot : Snapshot} {pool : Pool}
  {masks : List Mask}

/-- The masks with what the rule wants, if it is not refused. -/
def moved (rule : Rule) (tenants : Nat) (snapshot : Snapshot) (pool : Pool)
    (masks : List Mask) : List Mask :=
  match rule.proposal tenants snapshot pool masks with
  | .settled _ => masks
  | .write mask _ => masks.set rule.slice mask

theorem length_moved : (rule.moved tenants snapshot pool masks).length = masks.length := by
  unfold moved
  split
  · rfl
  · exact List.length_set ..

/-- A rule that wants nothing moves nothing. -/
theorem Settled.moved_eq (h : rule.Settled tenants snapshot pool masks) :
    rule.moved tenants snapshot pool masks = masks := by
  obtain ⟨change, hproposal⟩ := h
  rw [moved, hproposal]

theorem settled_iff_of_above (hlength : masks.length = tenants)
    (h : rule.verdict tenants snapshot = .above) :
    rule.Settled tenants snapshot pool masks ↔
      pool.limit ≤ rule.unit ∨ (∃ mask ∈ masks, mask.isSet rule.unit = true) ∨
        (Proposal.maskOf masks rule.slice).width ≤ rule.unit := by
  have hslice : rule.slice < masks.length := by
    rw [hlength]
    have hverdict : rule.verdict tenants snapshot ≠ .within := by simp [h]
    exact lt_of_verdict hverdict
  rw [Settled, proposal, h, Proposal.maskOf_eq hslice]
  exact Proposal.claim_settled_iff hslice

theorem settled_iff_of_below (hlength : masks.length = tenants)
    (h : rule.verdict tenants snapshot = .below) :
    rule.Settled tenants snapshot pool masks ↔
      pool.limit ≤ rule.unit ∨ (Proposal.maskOf masks rule.slice).isSet rule.unit = false := by
  have hslice : rule.slice < masks.length := by
    rw [hlength]
    have hverdict : rule.verdict tenants snapshot ≠ .within := by simp [h]
    exact lt_of_verdict hverdict
  rw [Settled, proposal, h, Proposal.maskOf_eq hslice]
  exact Proposal.release_settled_iff hslice

/-- **A rule that has had its way wants nothing more.** -/
theorem settled_moved (hlength : masks.length = tenants) :
    rule.Settled tenants snapshot pool (rule.moved tenants snapshot pool masks) := by
  cases hproposal : rule.proposal tenants snapshot pool masks with
  | settled change =>
      rw [Settled.moved_eq ⟨change, hproposal⟩]
      exact ⟨change, hproposal⟩
  | write mask change =>
      obtain ⟨hslice, hmoves⟩ := proposal_eq_write hlength hproposal
      have hset : rule.moved tenants snapshot pool masks = masks.set rule.slice mask := by
        rw [moved, hproposal]
      have hlength' : (rule.moved tenants snapshot pool masks).length = tenants :=
        length_moved.trans hlength
      rcases hmoves with ⟨hverdict, hgains⟩ | ⟨hverdict, hgains⟩
      · rw [settled_iff_of_above hlength' hverdict, hset]
        exact .inr (.inl ⟨mask, List.mem_set hslice mask, hgains.isSet_self⟩)
      · have hown : Proposal.maskOf (masks.set rule.slice mask) rule.slice = mask := by
          rw [Proposal.maskOf_eq (by simpa using hslice), List.getElem_set_self]
        rw [settled_iff_of_below hlength' hverdict, hset, hown]
        exact .inr hgains.fresh

/-- A rule that wants nothing still wants nothing after another slice's mask was written, unless it
is above its band and the other slice let its unit go. -/
theorem Settled.set (h : rule.Settled tenants snapshot pool masks)
    (hlength : masks.length = tenants) {slice : Nat} (hne : slice ≠ rule.slice)
    (hslice : slice < masks.length) {mask : Mask}
    (hkept : rule.verdict tenants snapshot = .above →
      masks[slice].isSet rule.unit = true → mask.isSet rule.unit = true) :
    rule.Settled tenants snapshot pool (masks.set slice mask) := by
  have hlength' : (masks.set slice mask).length = tenants := by rw [List.length_set, hlength]
  have hown : Proposal.maskOf (masks.set slice mask) rule.slice =
      Proposal.maskOf masks rule.slice := by
    rw [Proposal.maskOf, Proposal.maskOf, List.getD_eq_getElem?_getD, List.getD_eq_getElem?_getD,
      List.getElem?_set_ne hne]
  cases hverdict : rule.verdict tenants snapshot with
  | within => exact settled_of_within hverdict _
  | below =>
      rw [settled_iff_of_below hlength hverdict] at h
      rwa [settled_iff_of_below hlength' hverdict, hown]
  | above =>
      rw [settled_iff_of_above hlength hverdict] at h
      rw [settled_iff_of_above hlength' hverdict, hown]
      refine h.imp_right (Or.imp_left ?_)
      rintro ⟨holder, hmem, hheld⟩
      obtain ⟨i, hi, rfl⟩ := List.getElem_of_mem hmem
      by_cases heq : slice = i
      · subst heq
        exact ⟨mask, List.mem_set hslice mask, hkept hverdict hheld⟩
      · refine ⟨masks[i], ?_, hheld⟩
        rw [← List.getElem_set_ne heq (a := mask) (by simpa using hi)]
        exact List.getElem_mem _

/-- **Another rule unsettles a rule only by letting its unit go.** -/
theorem Settled.moved (h : rule.Settled tenants snapshot pool masks)
    (hlength : masks.length = tenants) (hne : other.slice ≠ rule.slice)
    (hunit : other.unit ≠ rule.unit ∨ rule.verdict tenants snapshot ≠ .above ∨
      other.verdict tenants snapshot ≠ .below) :
    rule.Settled tenants snapshot pool (other.moved tenants snapshot pool masks) := by
  cases hproposal : other.proposal tenants snapshot pool masks with
  | settled change => rwa [Settled.moved_eq ⟨change, hproposal⟩]
  | write mask change =>
      obtain ⟨hslice, hmoves⟩ := proposal_eq_write hlength hproposal
      have hset : other.moved tenants snapshot pool masks = masks.set other.slice mask := by
        rw [Rule.moved, hproposal]
      rw [hset]
      refine h.set hlength hne hslice fun habove hheld => ?_
      rcases hmoves with ⟨-, hgains⟩ | ⟨hbelow, hgains⟩
      · exact (hgains.held rule.unit).2 (.inl hheld)
      · rcases (hgains.held rule.unit).1 hheld with hkept | heq
        · exact hkept
        · rcases hunit with hunit | hverdict | hverdict
          · exact absurd heq.symm hunit
          · exact absurd habove hverdict
          · exact absurd hbelow hverdict

end Rule

/-- The masks with what the rules want, one after the other. -/
def movedBy (tenants : Nat) (snapshot : Snapshot) (pool : Pool) (rules : List Rule)
    (masks : List Mask) : List Mask :=
  rules.foldl (fun masks rule => rule.moved tenants snapshot pool masks) masks

section

variable {tenants : Nat} {snapshot : Snapshot} {pool : Pool} {masks : List Mask} {a b : Rule}

/-- Two rules of different units settle in one round. -/
theorem settled_of_distinct_units (hslices : a.slice ≠ b.slice) (hunits : a.unit ≠ b.unit)
    (hlength : masks.length = tenants) :
    ∀ rule ∈ [a, b],
      rule.Settled tenants snapshot pool (movedBy tenants snapshot pool [a, b] masks) := by
  have hlength' : (a.moved tenants snapshot pool masks).length = tenants :=
    Rule.length_moved.trans hlength
  have ha : a.Settled tenants snapshot pool (movedBy tenants snapshot pool [a, b] masks) :=
    (Rule.settled_moved hlength).moved hlength' hslices.symm (.inl hunits.symm)
  have hb : b.Settled tenants snapshot pool (movedBy tenants snapshot pool [a, b] masks) :=
    Rule.settled_moved hlength'
  simpa using ⟨ha, hb⟩

/-- **Two rules settle in two rounds**, also if they share a unit. -/
theorem settled_of_two_rounds (hslices : a.slice ≠ b.slice) (hlength : masks.length = tenants) :
    ∀ rule ∈ [a, b], rule.Settled tenants snapshot pool
      (movedBy tenants snapshot pool [a, b] (movedBy tenants snapshot pool [a, b] masks)) := by
  let once := movedBy tenants snapshot pool [a, b] masks
  have hfirst : (a.moved tenants snapshot pool masks).length = tenants :=
    Rule.length_moved.trans hlength
  have honce : once.length = tenants := Rule.length_moved.trans hfirst
  have hb : b.Settled tenants snapshot pool once := Rule.settled_moved hfirst
  show ∀ rule ∈ [a, b], rule.Settled tenants snapshot pool
    (b.moved tenants snapshot pool (a.moved tenants snapshot pool once))
  by_cases ha : a.Settled tenants snapshot pool once
  · -- Both had their way in the first round.
    rw [ha.moved_eq, hb.moved_eq]
    simpa using ⟨ha, hb⟩
  · -- The second rule let the unit go that the first one is waiting for.
    have hbelow : b.verdict tenants snapshot = .below := by
      by_contra hverdict
      exact ha ((Rule.settled_moved hlength).moved hfirst hslices.symm (.inr (.inr hverdict)))
    have hb' : b.Settled tenants snapshot pool (a.moved tenants snapshot pool once) :=
      hb.moved honce hslices (.inr (.inl (by simp [hbelow])))
    have ha' : a.Settled tenants snapshot pool (a.moved tenants snapshot pool once) :=
      Rule.settled_moved honce
    rw [hb'.moved_eq]
    simpa using ⟨ha', hb'⟩

/-! ### The policies without the store -/

/-- A switch that was carried out is not wanted any more. -/
theorem Verdict.policyChange?_switched (verdict : Verdict) (table : PolicyTable)
    (slice userCount : Nat) :
    verdict.policyChange?
      (table.switched slice (verdict.policyChange? table slice userCount)) slice userCount =
        none := by
  cases htarget : verdict.policy? with
  | none => simp only [policyChange?, htarget]
  | some target =>
      by_cases hwanted : 1 < userCount ∧ table.inForce slice ≠ target
      · have hchange : verdict.policyChange? table slice userCount =
            some ⟨table.inForce slice, target⟩ := by
          simp only [policyChange?, htarget, if_pos hwanted]
        have hforce : PolicyTable.inForce (table.insert slice target) slice = target := by
          rw [PolicyTable.inForce, SortedMap.get?_insert_self, Option.getD_some]
        rw [hchange, PolicyTable.switched]
        simp [policyChange?, htarget, hforce]
      · have hchange : verdict.policyChange? table slice userCount = none := by
          simp only [policyChange?, htarget, if_neg hwanted]
        rw [hchange, PolicyTable.switched, hchange]

/-- **After one round no rule wants another policy.** -/
theorem policyChange?_switchedBy {rules : List Rule}
    (hrules : rules.Pairwise fun a b => a.slice ≠ b.slice) (table : PolicyTable) :
    ∀ rule ∈ rules,
      rule.policyChange? tenants snapshot (switchedBy tenants snapshot rules table) = none := by
  induction rules generalizing table with
  | nil => exact fun _ h => absurd h List.not_mem_nil
  | cons first rest ih =>
      obtain ⟨hfirst, hrest⟩ := List.pairwise_cons.1 hrules
      have hfold : switchedBy tenants snapshot (first :: rest) table =
          switchedBy tenants snapshot rest (first.switched tenants snapshot table) := rfl
      rw [hfold]
      refine List.forall_mem_cons.2 ⟨?_, fun rule hrule => ih hrest _ rule hrule⟩
      have hforce : (switchedBy tenants snapshot rest
          (first.switched tenants snapshot table)).inForce first.slice =
            (first.switched tenants snapshot table).inForce first.slice := by
        rw [PolicyTable.inForce, PolicyTable.inForce,
          get?_switchedBy fun later hlater => (hfirst later hlater).symm]
      rw [Rule.policyChange?, Verdict.policyChange?_congr hforce]
      exact Verdict.policyChange?_switched ..

end

/-! ### Rounds without a refusal -/

variable {σ : Type} [Store σ] {sound : σ → Prop} {fits : Nat → Prop}

namespace Round

variable {tenants : Nat} {snapshot : Snapshot} {pool : Pool}

/-- The copy of the masks follows what the rule wants if its write is not refused. -/
theorem Carried.masks_eq {rule : Rule} {r r' : Round (Journal σ)}
    (h : Carried rule.slice r r' (rule.proposal tenants snapshot pool r.masks))
    (hunrefused : r'.store.Unrefused) : r'.masks = rule.moved tenants snapshot pool r.masks := by
  unfold Rule.moved
  generalize rule.proposal tenants snapshot pool r.masks = proposal at h
  cases h with
  | settled _ hmasks => exact hmasks
  | accepted _ hmasks _ => exact hmasks
  | @refused mask _ e _ _ hentered =>
      have haccepted := hunrefused (.mask rule.slice mask (.error e)) (by simp [hentered])
      simp at haccepted

theorem masks_foldl_obey (laws : Laws sound fits) (rules : List Rule) {r : Round (Journal σ)}
    (hr : InStep (fun j => sound j.store) tenants r)
    (hunrefused : (rules.foldl (obey pool tenants snapshot) r).store.Unrefused) :
    (rules.foldl (obey pool tenants snapshot) r).masks =
      movedBy tenants snapshot pool rules r.masks := by
  induction rules generalizing r with
  | nil => rfl
  | cons rule rest ih =>
      have hstep := (obey_inStep pool laws.journal hr snapshot rule).1
      have hfirst : (obey pool tenants snapshot r rule).store.Unrefused :=
        hunrefused.of_prefix (foldl_obey_grows laws pool snapshot rest hstep)
      rw [List.foldl_cons, ih hstep hunrefused,
        (obey_carried laws hr pool snapshot rule).masks_eq hfirst]
      rfl

end Round

namespace Heuristic

variable {h : Heuristic} {j : Journal σ} {snapshot : Snapshot} {masks : List Mask}

/-- What is on record after a round in which no write was refused. -/
theorem evaluate_unrefused (laws : Laws sound fits) (hs : sound j.store)
    (hmasks : readMasks j h.tenants = .ok masks)
    (hunrefused : (h.evaluate j snapshot).2.2.Unrefused) :
    readMasks (h.evaluate j snapshot).2.2 h.tenants =
        .ok (movedBy h.tenants snapshot h.pool h.rules masks) ∧
      readPolicies (h.evaluate j snapshot).2.2 =
        (readPolicies j).map (switchedBy h.tenants snapshot h.rules) := by
  have hstep := ruled_inStep laws hs hmasks snapshot
  have hclosed := Round.close_closed laws hstep.sound
  have hpolicies := readPolicies_ruled laws hs hmasks snapshot
  rw [evaluate_of_readable hmasks] at hunrefused ⊢
  refine ⟨?_, ?_⟩
  · have hruled : (h.ruled snapshot j masks).masks =
        movedBy h.tenants snapshot h.pool h.rules (h.opening j masks).masks :=
      Round.masks_foldl_obey laws h.rules (opening_inStep hs hmasks)
        (hunrefused.of_prefix hclosed.grows)
    rw [masks_opening] at hruled
    rw [readMasks_congr hclosed.masks, ← hruled]
    exact hstep.read
  · cases hclosed with
    | idle hidle hstore =>
        rw [hstore, hpolicies]
        cases hold : readPolicies j with
        | error e => rfl
        | ok old =>
            have hopening : (h.opening j masks).policies = some old := by
              rw [policies_opening, hold]
              rfl
            rcases hidle with hnone | hnot
            · rw [policies_ruled, hold] at hnone
              simp [Except.toOption] at hnone
            · rw [Except.map, (Round.switchedBy_of_not_switched h.rules hopening hnot).2]
    | accepted htable _ hwritten _ =>
        obtain ⟨hnew, old, hold, rfl⟩ := readPolicies_of_written laws hs hmasks htable hwritten
        rw [hnew, hold]
        rfl
    | @refused table e _ _ _ hentered =>
        have haccepted := hunrefused (.policies table (.error e)) (by simp [hentered])
        simp at haccepted

/-- After a round without a refusal every rule is at rest whose mask is settled. -/
theorem atRest_evaluate (laws : Laws sound fits) (hs : sound j.store)
    (hmasks : readMasks j h.tenants = .ok masks)
    (hunrefused : (h.evaluate j snapshot).2.2.Unrefused)
    (hsettled : ∀ rule ∈ h.rules, rule.Settled h.tenants snapshot h.pool
      (movedBy h.tenants snapshot h.pool h.rules masks)) :
    h.AtRest snapshot (h.evaluate j snapshot).2.2 := by
  obtain ⟨hmasks', hpolicies⟩ := evaluate_unrefused laws hs hmasks hunrefused
  intro found hfound rule hrule
  obtain rfl := Except.ok.inj (hmasks'.symm.trans hfound)
  refine ⟨hsettled rule hrule, ?_⟩
  rw [hpolicies]
  cases readPolicies j with
  | error e => rfl
  | ok old => exact policyChange?_switchedBy h.slices_of_rules old rule hrule

/-- Once the rules are at rest, the load may go on for any number of rounds. -/
theorem after_replicate {s : σ} {m n : Nat} (hle : m ≤ n)
    (hrest : h.AtRest snapshot (h.after s (List.replicate m snapshot)).2) :
    (h.after s (List.replicate n snapshot)).2 = (h.after s (List.replicate m snapshot)).2 := by
  obtain ⟨more, rfl⟩ := Nat.exists_eq_add_of_le hle
  rw [List.replicate_add, after_append, settings_after]
  refine after_of_atRest _ fun later hlater => ?_
  rw [List.eq_of_mem_replicate hlater]
  exact hrest

/-- **A constant load settles.**  If no write is refused, a third round on the same averages and any
later one finds nothing to write; if the units of the rules differ, so does a second one. -/
theorem settled_of_constant_load (laws : Laws sound fits) (h : Heuristic) {s : σ} (hs : sound s)
    (snapshot : Snapshot) :
    let j : Nat → Journal σ := fun n => (h.after (Journal.start s) (List.replicate n snapshot)).2
    ((j 2).Unrefused → ∀ n, 2 ≤ n → j n = j 2) ∧
      (h.bufferUnit ≠ h.throughputUnit → (j 1).Unrefused → ∀ n, 1 ≤ n → j n = j 1) := by
  intro j
  have hsecond : j 2 = ({ h with round := h.round + 1 }.evaluate (j 1) snapshot).2.2 :=
    h.after_concat (Journal.start s) [snapshot] snapshot
  have hsound : sound (j 1).store := sound_after laws.journal h (s := Journal.start s) hs _
  cases hmasks : readMasks (Journal.start s) h.tenants with
  | error e =>
      -- A round that cannot read the masks is over at once.
      have hrest : h.AtRest snapshot (j 0) := fun masks hread => by
        have hread : readMasks (Journal.start s) h.tenants = .ok masks := hread
        rw [hmasks] at hread
        simp at hread
      have hall (n : Nat) : j n = j 0 := after_replicate (Nat.zero_le n) hrest
      exact ⟨fun _ n _ => (hall n).trans (hall 2).symm, fun _ _ n _ => (hall n).trans (hall 1).symm⟩
  | ok masks =>
      have hlength := (readMasks_eq_ok_iff.1 hmasks).1
      have hslices : (0 : Nat) ≠ 1 := Nat.zero_ne_one
      refine ⟨fun hunrefused n hn => after_replicate hn ?_, fun hunits hunrefused n hn =>
        after_replicate hn ?_⟩
      · have hfirst : (j 1).Unrefused := by
          rw [hsecond] at hunrefused
          exact hunrefused.of_prefix (evaluate_grows laws hsound snapshot)
        have hmasks' := (evaluate_unrefused laws (j := Journal.start s) hs hmasks hfirst).1
        rw [hsecond] at hunrefused
        have hrest := atRest_evaluate laws (h := { h with round := h.round + 1 }) hsound hmasks'
          hunrefused (settled_of_two_rounds hslices hlength)
        rw [← hsecond] at hrest
        exact hrest
      · exact atRest_evaluate laws (j := Journal.start s) hs hmasks hunrefused
          (settled_of_distinct_units hslices hunits hlength)

/-- Both rules have unit 2.  Slice 1 lets it go in the first round, slice 0 claims it in the second,
and that is that; with units of their own, one round is enough. -/
theorem settled_of_shared_unit :
    let s : MemoryStore :=
      { MemoryStore.empty 8 with
        masks := .ofList [(1, ⟨[false, false, true, false, false, true, false, false]⟩)] }
    let snapshot : Snapshot := .ofList
      [(0, ⟨2, .ofList [("dl_buffer [bytes]", 2500.0)]⟩),
        (1, ⟨3, .ofList [("tx_brate downlink [Mbps]", 0.125)]⟩)]
    let shared : Heuristic :=
      .ofSettings (.full 8) 2 { HeuristicSettings.standard with throughputUnit := 2 }
    let apart : Heuristic :=
      .ofSettings (.full 8) 2 { HeuristicSettings.standard with bufferUnit := 0 }
    let j : Heuristic → Nat → Journal MemoryStore :=
      fun h n => (h.after (Journal.start s) (List.replicate n snapshot)).2
    (j shared 1).attempts.length = 2 ∧ (j shared 2).attempts.length = 3 ∧
      (∀ n, 2 ≤ n → j shared n = j shared 2) ∧
      (j apart 1).attempts.length = 3 ∧ ∀ n, 1 ≤ n → j apart n = j apart 1 := by
  intro s snapshot shared apart j
  have hshared : (j shared 2).Unrefused := by decide +kernel
  have hapart : (j apart 1).Unrefused := by decide +kernel
  exact ⟨by decide +kernel, by decide +kernel,
    (settled_of_constant_load MemoryStore.laws shared (s := s) trivial snapshot).1 hshared,
    by decide +kernel,
    (settled_of_constant_load MemoryStore.laws apart (s := s) trivial snapshot).2
      (by decide +kernel) hapart⟩

end Heuristic

end RanSlicing
