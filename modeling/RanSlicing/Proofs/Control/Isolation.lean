/-
A failure in a round stays with its record.

Two rounds are compared that start from the same masks on stores that need not refuse the same
writes.  Once a write was refused in one of them only, their copies of the masks differ, and the
second rule looks at all of them.  What saves it is that it looks at nothing but its own mask and
the bits of its own unit (`Rule.SeesSame`), and the first rule has moved another unit of another
mask.  So the rules ask for the same masks in both rounds, and each of the records ends up the same
if its own write went the same way (`Abreast`).

The policies never look at a mask.  If they are read the same, both rounds tell of the same verdicts
and switches and ask for the same table; if they cannot be read, nothing is asked.
-/
import RanSlicing.Proofs.Control.Rounds
import RanSlicing.Proofs.Store.Fickle
import RanSlicing.Proofs.Store.Memory

namespace RanSlicing

open Store

variable {σ : Type} [Store σ]

/-! ### A record in a journal -/

/-- What a write is about. -/
inductive StoreRecord where
  | mask (slice : Nat)
  | policies
  deriving DecidableEq

namespace Attempt

/-- The record that is written. -/
def record : Attempt → StoreRecord
  | .mask slice _ _ => .mask slice
  | .policies _ _ => .policies

/-- The write if it had been accepted, which is what was asked for. -/
def granted : Attempt → Attempt
  | .mask slice held _ => .mask slice held (.ok ())
  | .policies table _ => .policies table (.ok ())

end Attempt

namespace Journal

/-- What was asked for of a record, in order and whatever was answered. -/
def asked (j : Journal σ) (record : StoreRecord) : List Attempt :=
  (j.attempts.filter (·.record = record)).map Attempt.granted

/-- Whether the writes of a record were accepted, in order. -/
def outcomes (j : Journal σ) (record : StoreRecord) : List Bool :=
  (j.attempts.filter (·.record = record)).map Attempt.accepted

variable {j k : Journal σ} {a : Attempt} {record : StoreRecord}

omit [Store σ] in
theorem asked_self (h : k.attempts = j.attempts ++ [a]) (hrecord : a.record = record) :
    k.asked record = j.asked record ++ [a.granted] := by
  simp [asked, h, hrecord]

omit [Store σ] in
theorem asked_ne (h : k.attempts = j.attempts ++ [a]) (hrecord : a.record ≠ record) :
    k.asked record = j.asked record := by
  simp [asked, h, hrecord]

omit [Store σ] in
theorem outcomes_self (h : k.attempts = j.attempts ++ [a]) (hrecord : a.record = record) :
    k.outcomes record = j.outcomes record ++ [a.accepted] := by
  simp [outcomes, h, hrecord]

omit [Store σ] in
theorem outcomes_ne (h : k.attempts = j.attempts ++ [a]) (hrecord : a.record ≠ record) :
    k.outcomes record = j.outcomes record := by
  simp [outcomes, h, hrecord]

end Journal

/-- Of the slice's mask the same was asked, and if the writes went the same way it is the same. -/
def SameFate (slice : Nat) (j k : Journal σ) : Prop :=
  k.asked (.mask slice) = j.asked (.mask slice) ∧
    (k.outcomes (.mask slice) = j.outcomes (.mask slice) → readMask k slice = readMask j slice)

/-! ### What a rule looks at -/

namespace Rule

variable {rule : Rule} {masks masks' masks'' : List Mask}

/-- The masks are the same as far as the rule looks: the one of its slice, and all at its unit. -/
structure SeesSame (rule : Rule) (masks masks' : List Mask) : Prop where
  own : Proposal.maskOf masks' rule.slice = Proposal.maskOf masks rule.slice
  unit : masks'.map (·.isSet rule.unit) = masks.map (·.isSet rule.unit)

theorem SeesSame.refl (rule : Rule) (masks : List Mask) : rule.SeesSame masks masks := ⟨rfl, rfl⟩

theorem SeesSame.symm (h : rule.SeesSame masks masks') : rule.SeesSame masks' masks :=
  ⟨h.own.symm, h.unit.symm⟩

theorem SeesSame.trans (h : rule.SeesSame masks masks') (h' : rule.SeesSame masks' masks'') :
    rule.SeesSame masks masks'' :=
  ⟨h'.own.trans h.own, h'.unit.trans h.unit⟩

/-- **A rule wants the same of masks that look the same to it.** -/
theorem SeesSame.proposal_eq (h : rule.SeesSame masks masks') (tenants : Nat)
    (snapshot : Snapshot) (pool : Pool) :
    rule.proposal tenants snapshot pool masks' = rule.proposal tenants snapshot pool masks := by
  have hholder : masks'.findIdx? (·.isSet rule.unit) = masks.findIdx? (·.isSet rule.unit) := by
    have hmap := congrArg (List.findIdx? id) h.unit
    simpa only [List.findIdx?_map, Function.comp_def, id_eq] using hmap
  unfold proposal
  cases rule.verdict tenants snapshot with
  | above => simp only [Proposal.ofVerdict, Proposal.claim, h.own, hholder]
  | below => simp only [Proposal.ofVerdict, Proposal.release, h.own]
  | within => rfl

/-- A mask that was written for another slice looks the same at another unit. -/
theorem SeesSame.set {slice : Nat} (hslice : slice < masks.length) (hne : slice ≠ rule.slice)
    {mask : Mask} (hunit : mask.isSet rule.unit = masks[slice].isSet rule.unit) :
    rule.SeesSame masks (masks.set slice mask) := by
  refine ⟨?_, ?_⟩
  · rw [Proposal.maskOf, Proposal.maskOf, List.getD_eq_getElem?_getD,
      List.getD_eq_getElem?_getD, List.getElem?_set_ne hne]
  · let held : Mask → Bool := (·.isSet rule.unit)
    calc (masks.set slice mask).map held
        = (masks.map held).set slice (held mask) := List.map_set
      _ = (masks.map held).set slice (held masks[slice]) := congrArg _ hunit
      _ = (masks.set slice masks[slice]).map held := List.map_set.symm
      _ = masks.map held := by rw [List.set_getElem_self]

end Rule

namespace Round

variable {tenants : Nat} {snapshot : Snapshot} {pool : Pool} {sound : σ → Prop}
  {fits : Nat → Prop}

/-- A write that a rule tried, and what follows if it was accepted. -/
theorem Carried.of_write {slice : Nat} {mask : Mask} {change : MaskChange}
    {r r' : Round (Journal σ)} (h : Carried slice r r' (.write mask change)) :
    ∃ answer, r'.store.attempts = r.store.attempts ++ [.mask slice mask answer] ∧
      readMask r'.store slice =
        if (Attempt.mask slice mask answer).accepted then .ok mask else readMask r.store slice := by
  cases h with
  | accepted hwritten _ hentered => exact ⟨_, hentered, by simpa using hwritten.readMask_self⟩
  | refused hsame _ hentered => exact ⟨_, hentered, by simpa using hsame.masks slice⟩

/-- What two rounds make of the same proposal has the same fate in both, and no other mask is
touched. -/
theorem Carried.sameFate {slice : Nat} {r r' k k' : Round (Journal σ)} {proposal : Proposal}
    (h : Carried slice r k proposal) (h' : Carried slice r' k' proposal)
    (hbefore : ∀ other, SameFate other r.store r'.store) (other : Nat) :
    SameFate other k.store k'.store := by
  cases proposal with
  | settled change =>
      cases h with
      | settled hstore _ =>
          cases h' with
          | settled hstore' _ =>
              rw [hstore, hstore']
              exact hbefore other
  | write mask change =>
      obtain ⟨answer, hentered, hread⟩ := h.of_write
      obtain ⟨answer', hentered', hread'⟩ := h'.of_write
      by_cases heq : other = slice
      · subst heq
        obtain ⟨hasked, hkept⟩ := hbefore other
        have hself (answer : Except Fault Unit) :
            (Attempt.mask other mask answer).record = .mask other := rfl
        refine ⟨?_, fun houtcomes => ?_⟩
        · rw [Journal.asked_self hentered (hself _), Journal.asked_self hentered' (hself _), hasked]
          rfl
        · -- The last outcome is the one of this write, the others are from before.
          rw [Journal.outcomes_self hentered (hself _), Journal.outcomes_self hentered' (hself _)]
            at houtcomes
          obtain ⟨hearlier, hlast⟩ := List.append_inj' houtcomes rfl
          rw [hread, hread', List.singleton_inj.1 hlast, hkept hearlier]
      · have hne : StoreRecord.mask slice ≠ .mask other := fun hsame =>
          heq (StoreRecord.mask.inj hsame).symm
        unfold SameFate
        rw [Journal.asked_ne hentered hne, Journal.asked_ne hentered' hne,
          Journal.outcomes_ne hentered hne, Journal.outcomes_ne hentered' hne,
          h.readMask_ne heq, h'.readMask_ne heq]
        exact hbefore other

/-- What a rule has made of the masks looks the same to a rule of another slice and unit. -/
theorem Carried.seesSame {rule later : Rule} {r r' : Round (Journal σ)}
    (h : Carried rule.slice r r' (rule.proposal tenants snapshot pool r.masks))
    (hlength : r.masks.length = tenants) (hslice : rule.slice ≠ later.slice)
    (hunit : rule.unit ≠ later.unit) : later.SeesSame r.masks r'.masks := by
  generalize hproposal : rule.proposal tenants snapshot pool r.masks = proposal at h
  cases h with
  | settled _ hmasks => exact hmasks ▸ .refl later r.masks
  | refused _ hmasks _ => exact hmasks ▸ .refl later r.masks
  | @accepted mask _ _ hmasks _ =>
      obtain ⟨hlt, hmoves⟩ := Rule.proposal_eq_write hlength hproposal
      have hsame : mask.isSet later.unit = r.masks[rule.slice].isSet later.unit := by
        rcases hmoves with ⟨-, hgains⟩ | ⟨-, hgains⟩
        · exact hgains.isSet_ne hunit.symm
        · exact (hgains.isSet_ne hunit.symm).symm
      rw [hmasks]
      exact .set hlt hslice hsame

/-! ### Two rounds side by side -/

/-- Two rounds have asked for the same masks, those of which the writes went the same way are the
same, and the rules to come see no difference. -/
structure Abreast (sound : σ → Prop) (tenants : Nat) (rules : List Rule)
    (r r' : Round (Journal σ)) : Prop where
  left : InStep (fun j => sound j.store) tenants r
  right : InStep (fun j => sound j.store) tenants r'
  seen : ∀ rule ∈ rules, rule.SeesSame r.masks r'.masks
  records : ∀ slice, SameFate slice r.store r'.store

/-- **A rule keeps two rounds abreast**, whichever of the two stores refuses it. -/
theorem Abreast.obey (laws : Laws sound fits) {rule : Rule} {rest : List Rule}
    {r r' : Round (Journal σ)} (h : Abreast sound tenants (rule :: rest) r r')
    (hrest : ∀ later ∈ rest, rule.slice ≠ later.slice ∧ rule.unit ≠ later.unit) :
    Abreast sound tenants rest (Round.obey pool tenants snapshot r rule)
      (Round.obey pool tenants snapshot r' rule) := by
  obtain ⟨hown, hseen⟩ := List.forall_mem_cons.1 h.seen
  have hlength := (readMasks_eq_ok_iff.1 h.left.read).1
  have hlength' := (readMasks_eq_ok_iff.1 h.right.read).1
  have hcarried := obey_carried laws h.left pool snapshot rule
  have hcarried' := obey_carried laws h.right pool snapshot rule
  have hwanted := hown.proposal_eq tenants snapshot pool
  refine
    { left := (obey_inStep pool laws.journal h.left snapshot rule).1
      right := (obey_inStep pool laws.journal h.right snapshot rule).1
      seen := fun later hlater => ?seen
      records := hcarried.sameFate (hwanted ▸ hcarried') h.records }
  case seen =>
    obtain ⟨hslice, hunit⟩ := hrest later hlater
    exact (hcarried.seesSame hlength hslice hunit).symm.trans
      ((hseen later hlater).trans (hcarried'.seesSame hlength' hslice hunit))

/-- **Rules of different slices and units keep two rounds abreast.** -/
theorem Abreast.foldl_obey (laws : Laws sound fits) (pool : Pool) (snapshot : Snapshot)
    {rules : List Rule} (hrules : rules.Pairwise fun a b => a.slice ≠ b.slice ∧ a.unit ≠ b.unit)
    {r r' : Round (Journal σ)} (h : Abreast sound tenants rules r r') :
    Abreast sound tenants [] (rules.foldl (Round.obey pool tenants snapshot) r)
      (rules.foldl (Round.obey pool tenants snapshot) r') := by
  induction rules generalizing r r' with
  | nil => exact h
  | cons rule rest ih =>
      obtain ⟨hfirst, hrest⟩ := List.pairwise_cons.1 hrules
      exact ih hrest (h.obey laws hfirst)

/-! ### What is told apart from the masks -/

end Round

/-- The decision without what became of the mask. -/
def Decision.withoutMask (d : Decision) : Decision :=
  { d with
    outcome := match d.outcome with
      | .skipped reason => .skipped reason
      | .evaluated found => .evaluated { found with mask := .unchanged } }

theorem Decision.policyChange?_withoutMask (d : Decision) :
    d.withoutMask.outcome.policyChange? = d.outcome.policyChange? := by
  obtain ⟨slice, metric, userCount, outcome⟩ := d
  cases outcome <;> rfl

theorem Rule.withoutMask_decision (rule : Rule) (tenants : Nat) (snapshot : Snapshot)
    (mask mask' : MaskChange) (policy : Option PolicyChange) :
    (rule.decision tenants snapshot mask policy).withoutMask =
      (rule.decision tenants snapshot mask' policy).withoutMask := by
  simp only [Rule.decision, Decision.withoutMask]
  cases rule.measure tenants snapshot <;> rfl

namespace Round

variable {tenants : Nat} {snapshot : Snapshot} {pool : Pool} {sound : σ → Prop}
  {fits : Nat → Prop}

/-- What is told of the verdicts and the policies depends on the policies alone. -/
theorem withoutMask_foldl_obey (pool : Pool) (tenants : Nat) (snapshot : Snapshot)
    (rules : List Rule) {r r' : Round σ}
    (hpolicies : r'.policies = r.policies)
    (htold : r'.report.decisions.map Decision.withoutMask =
      r.report.decisions.map Decision.withoutMask) :
    (rules.foldl (obey pool tenants snapshot) r').report.decisions.map Decision.withoutMask =
      (rules.foldl (obey pool tenants snapshot) r).report.decisions.map Decision.withoutMask := by
  induction rules generalizing r r' with
  | nil => exact htold
  | cons rule rest ih =>
      refine ih (by rw [policies_obey, policies_obey, hpolicies]) ?_
      obtain ⟨mask, hdecisions⟩ := decisions_obey pool tenants snapshot r rule
      obtain ⟨mask', hdecisions'⟩ := decisions_obey pool tenants snapshot r' rule
      rw [hdecisions, hdecisions', List.map_append, List.map_append, htold, hpolicies,
        List.map_singleton, List.map_singleton, rule.withoutMask_decision tenants snapshot mask']

/-- The table that is to be written at the close of the round. -/
def wanted (r : Round σ) : Option PolicyTable := if r.hasSwitched then r.policies else none

omit [Store σ] in
/-- What is to be written at the close is told apart from the masks. -/
theorem wanted_congr {r r' : Round σ} (hpolicies : r'.policies = r.policies)
    (htold : r'.report.decisions.map Decision.withoutMask =
      r.report.decisions.map Decision.withoutMask) : r'.wanted = r.wanted := by
  have hswitched : ∀ r : Round σ, r.hasSwitched =
      (r.report.decisions.map Decision.withoutMask).any
        fun d => d.outcome.policyChange?.isSome := by
    intro r
    rw [hasSwitched, List.any_map]
    congr 1
    funext d
    rw [Function.comp_apply, d.policyChange?_withoutMask]
  rw [wanted, wanted, hswitched, hswitched, htold, hpolicies]

/-! ### The policies in a journal -/

/-- A rule asks nothing of the policies. -/
theorem Carried.unasked {slice : Nat} {r r' : Round (Journal σ)} {proposal : Proposal}
    (h : Carried slice r r' proposal) :
    r'.store.asked .policies = r.store.asked .policies ∧
      r'.store.outcomes .policies = r.store.outcomes .policies := by
  cases proposal with
  | settled change =>
      cases h with
      | settled hstore _ => exact ⟨by rw [hstore], by rw [hstore]⟩
  | write mask change =>
      obtain ⟨answer, hentered, -⟩ := h.of_write
      have hne : (Attempt.mask slice mask answer).record ≠ .policies := StoreRecord.noConfusion
      exact ⟨Journal.asked_ne hentered hne, Journal.outcomes_ne hentered hne⟩

theorem foldl_obey_unasked (laws : Laws sound fits) (pool : Pool) (snapshot : Snapshot)
    (rules : List Rule) {r : Round (Journal σ)} (hr : InStep (fun j => sound j.store) tenants r) :
    (rules.foldl (obey pool tenants snapshot) r).store.asked .policies =
        r.store.asked .policies ∧
      (rules.foldl (obey pool tenants snapshot) r).store.outcomes .policies =
        r.store.outcomes .policies := by
  induction rules generalizing r with
  | nil => exact ⟨rfl, rfl⟩
  | cons rule rest ih =>
      obtain ⟨hasked, houtcomes⟩ := (obey_carried laws hr pool snapshot rule).unasked
      obtain ⟨hasked', houtcomes'⟩ := ih (obey_inStep pool laws.journal hr snapshot rule).1
      exact ⟨hasked'.trans hasked, houtcomes'.trans houtcomes⟩

theorem Closed.store_eq {r r' : Round (Journal σ)} (h : Closed r r') (hwanted : r.wanted = none) :
    r'.store = r.store := by
  cases h with
  | idle _ hstore => exact hstore
  | accepted htable hswitched _ _ => simp [wanted, htable, hswitched] at hwanted
  | refused htable hswitched _ _ => simp [wanted, htable, hswitched] at hwanted

/-- A write of the policies that was tried, and what follows if it was accepted. -/
theorem Closed.of_wanted {r r' : Round (Journal σ)} (h : Closed r r') {table : PolicyTable}
    (hwanted : r.wanted = some table) :
    r.policies = some table ∧
      ∃ answer, r'.store.attempts = r.store.attempts ++ [.policies table answer] ∧
        (answer = .ok () → PoliciesWritten r.store r'.store table) ∧
          (answer ≠ .ok () → SameRecords r.store r'.store) := by
  cases h with
  | idle hidle _ => rcases hidle with hnone | hnot <;> simp [wanted, *] at hwanted
  | accepted htable hswitched hwritten hentered =>
      simp only [wanted, htable, hswitched, if_true, Option.some.injEq] at hwanted
      subst hwanted
      exact ⟨htable, _, hentered, fun _ => hwritten, fun hne => absurd rfl hne⟩
  | refused htable hswitched hsame hentered =>
      simp only [wanted, htable, hswitched, if_true, Option.some.injEq] at hwanted
      subst hwanted
      exact ⟨htable, _, hentered, fun heq => by simp at heq, fun _ => hsame⟩

/-- The close of a round changes the fate of no mask. -/
theorem Closed.sameFate {r r' k k' : Round (Journal σ)} (h : Closed r k) (h' : Closed r' k')
    {slice : Nat} (hfate : SameFate slice r.store r'.store) :
    SameFate slice k.store k'.store := by
  have hentered : ∀ {r k : Round (Journal σ)}, Closed r k →
      k.store.asked (.mask slice) = r.store.asked (.mask slice) ∧
        k.store.outcomes (.mask slice) = r.store.outcomes (.mask slice) := by
    intro r k h
    cases h with
    | idle _ hstore => exact ⟨by rw [hstore], by rw [hstore]⟩
    | accepted _ _ _ hentered =>
        exact ⟨Journal.asked_ne hentered StoreRecord.noConfusion,
          Journal.outcomes_ne hentered StoreRecord.noConfusion⟩
    | refused _ _ _ hentered =>
        exact ⟨Journal.asked_ne hentered StoreRecord.noConfusion,
          Journal.outcomes_ne hentered StoreRecord.noConfusion⟩
  obtain ⟨hasked, houtcomes⟩ := hentered h
  obtain ⟨hasked', houtcomes'⟩ := hentered h'
  unfold SameFate
  rw [hasked, hasked', houtcomes, houtcomes', h.masks slice, h'.masks slice]
  exact hfate

end Round

namespace Heuristic

variable {sound : σ → Prop} {fits : Nat → Prop}

theorem apart_of_rules {h : Heuristic} (hunits : h.bufferUnit ≠ h.throughputUnit) :
    h.rules.Pairwise fun a b => a.slice ≠ b.slice ∧ a.unit ≠ b.unit := by
  simpa [rules] using hunits

section

variable {h : Heuristic} {s s' : σ} {masks : List Mask}

/-- What a round asks of the policies, and what follows if it is accepted. -/
theorem policies_of_wanted (laws : Laws sound fits) (hs : sound s)
    (hmasks : readMasks (Journal.start s) h.tenants = .ok masks) (snapshot : Snapshot) :
    let r := h.ruled snapshot (Journal.start s) masks
    (r.wanted = none → r.close.store.asked .policies = [] ∧
      readPolicies r.close.store = readPolicies s) ∧
    ∀ table, r.wanted = some table →
      ∃ accepted : Bool, r.close.store.asked .policies = [.policies table (.ok ())] ∧
        r.close.store.outcomes .policies = [accepted] ∧
          readPolicies r.close.store = if accepted then .ok table else readPolicies s := by
  intro r
  have hread : readPolicies r.store = readPolicies s :=
    readPolicies_ruled laws (j := Journal.start s) hs hmasks snapshot
  obtain ⟨hasked, houtcomes⟩ := Round.foldl_obey_unasked laws h.pool snapshot h.rules
    (opening_inStep (j := Journal.start s) hs hmasks)
  rw [store_opening] at hasked houtcomes
  have hclosed : Round.Closed r r.close :=
    Round.close_closed laws (ruled_inStep laws (j := Journal.start s) hs hmasks snapshot).sound
  refine ⟨fun hwanted => ?_, fun table hwanted => ?_⟩
  · rw [hclosed.store_eq hwanted]
    exact ⟨hasked, hread⟩
  · obtain ⟨htable, answer, hentered, haccepted, hrefused⟩ := hclosed.of_wanted hwanted
    have hrecord : (Attempt.policies table answer).record = .policies := rfl
    refine ⟨decide (answer = .ok ()), ?_, ?_, ?_⟩
    · exact (Journal.asked_self hentered hrecord).trans (congrArg (· ++ _) hasked)
    · exact (Journal.outcomes_self hentered hrecord).trans (congrArg (· ++ _) houtcomes)
    · by_cases hanswer : answer = .ok ()
      · rw [if_pos (by simpa using hanswer)]
        exact (readPolicies_of_written laws (j := Journal.start s) hs hmasks htable
          (haccepted hanswer)).1
      · rw [if_neg (by simpa using hanswer)]
        exact (hrefused hanswer).policies.trans hread

/-- The masks do not matter to what is told and wanted of the policies. -/
theorem told_of_ruled (h : Heuristic) (hpolicies : readPolicies s' = readPolicies s)
    (masks masks' : List Mask) (snapshot : Snapshot) :
    (h.ruled snapshot s' masks').report.decisions.map Decision.withoutMask =
        (h.ruled snapshot s masks).report.decisions.map Decision.withoutMask ∧
      (h.ruled snapshot s' masks').wanted = (h.ruled snapshot s masks).wanted := by
  have hopening : (h.opening s' masks').policies = (h.opening s masks).policies := by
    rw [policies_opening, policies_opening, hpolicies]
  have htold := Round.withoutMask_foldl_obey h.pool h.tenants snapshot h.rules hopening
    (by rw [decisions_opening, decisions_opening])
  exact ⟨htold, Round.wanted_congr (by rw [policies_ruled, policies_ruled, hpolicies]) htold⟩

/-- Two rounds from the same masks do the same to each mask of which the writes go the same way. -/
theorem sameFate_of_ruled (laws : Laws sound fits) (hunits : h.bufferUnit ≠ h.throughputUnit)
    (hs : sound s) (hs' : sound s') (hsame : ∀ slice, readMask s' slice = readMask s slice)
    (hmasks : readMasks (Journal.start s) h.tenants = .ok masks)
    (hmasks' : readMasks (Journal.start s') h.tenants = .ok masks) (snapshot : Snapshot)
    (slice : Nat) :
    SameFate slice (h.ruled snapshot (Journal.start s) masks).close.store
      (h.ruled snapshot (Journal.start s') masks).close.store := by
  have hopening : Round.Abreast sound h.tenants h.rules (h.opening (Journal.start s) masks)
      (h.opening (Journal.start s') masks) := by
    refine ⟨opening_inStep (j := Journal.start s) hs hmasks,
      opening_inStep (j := Journal.start s') hs' hmasks', fun rule _ => ?_, fun slice => ?_⟩
    · rw [masks_opening, masks_opening]
      exact .refl rule masks
    · rw [store_opening, store_opening]
      exact ⟨rfl, fun _ => hsame slice⟩
  have hruled := hopening.foldl_obey laws h.pool snapshot (apart_of_rules hunits)
  exact (Round.close_closed laws hruled.left.sound).sameFate
    (Round.close_closed laws hruled.right.sound) (hruled.records slice)

end

/-- **A failure stays with its record.**  Two rounds on the same averages start from the same masks
on stores that may refuse different writes, and the units of the rules differ.  Both ask for the
same masks, and a mask ends up the same in both if its own write went the same way.  If the policies
are read the same, so do they, and the verdicts and the switches that are told are the same.  If
they cannot be read, nothing is asked of them. -/
theorem isolated_evaluate (laws : Laws sound fits) (h : Heuristic)
    (hunits : h.bufferUnit ≠ h.throughputUnit) {s s' : σ} (hs : sound s) (hs' : sound s')
    (hmasks : ∀ slice, readMask s' slice = readMask s slice) (snapshot : Snapshot) :
    let j := (h.evaluate (Journal.start s) snapshot).2.2
    let j' := (h.evaluate (Journal.start s') snapshot).2.2
    j.store = (h.evaluate s snapshot).2.2 ∧ j'.store = (h.evaluate s' snapshot).2.2 ∧
    (∀ slice, SameFate slice j j') ∧
    (readPolicies s' = readPolicies s →
      (h.evaluate s' snapshot).1.decisions.map Decision.withoutMask =
          (h.evaluate s snapshot).1.decisions.map Decision.withoutMask ∧
        j'.asked .policies = j.asked .policies ∧
        (j'.outcomes .policies = j.outcomes .policies → readPolicies j' = readPolicies j)) ∧
    ∀ e, readPolicies s = .error e → j.asked .policies = [] ∧ readPolicies j = .error e := by
  intro j j'
  obtain ⟨hreport, hstore⟩ := h.evaluate_journal (Journal.start s) snapshot
  obtain ⟨hreport', hstore'⟩ := h.evaluate_journal (Journal.start s') snapshot
  refine ⟨hstore, hstore', ?_⟩
  have hreports : (h.evaluate s snapshot).1 = (h.evaluate (Journal.start s) snapshot).1 :=
    hreport.symm
  have hreports' : (h.evaluate s' snapshot).1 = (h.evaluate (Journal.start s') snapshot).1 :=
    hreport'.symm
  rw [hreports, hreports']
  have hsame : readMasks (Journal.start s') h.tenants = readMasks (Journal.start s) h.tenants :=
    readMasks_congr (s := s) hmasks h.tenants
  cases hread : readMasks (Journal.start s) h.tenants with
  | error e =>
      have hread' := hsame.trans hread
      have hj : j = Journal.start s := by simp only [j, evaluate_of_unreadable hread]
      have hj' : j' = Journal.start s' := by simp only [j', evaluate_of_unreadable hread']
      rw [hj, hj', evaluate_of_unreadable hread, evaluate_of_unreadable hread']
      exact ⟨fun slice => ⟨rfl, fun _ => hmasks slice⟩,
        fun hpolicies => ⟨rfl, rfl, fun _ => hpolicies⟩, fun _ herror => ⟨rfl, herror⟩⟩
  | ok masks =>
      have hread' := hsame.trans hread
      simp only [j, j', evaluate_of_readable hread, evaluate_of_readable hread']
      obtain ⟨hidle, hwritten⟩ := policies_of_wanted laws hs hread snapshot
      obtain ⟨hidle', hwritten'⟩ := policies_of_wanted laws hs' hread' snapshot
      refine ⟨sameFate_of_ruled laws hunits hs hs' hmasks hread hread' snapshot,
        fun hpolicies => ?policies, fun e herror => ?unreadable⟩
      case policies =>
        have hrecords : readPolicies (Journal.start s') = readPolicies (Journal.start s) := hpolicies
        obtain ⟨htold, hwanted⟩ := h.told_of_ruled hrecords masks masks snapshot
        refine ⟨by rw [Round.decisions_close, Round.decisions_close, htold], ?_⟩
        cases hwant : (h.ruled snapshot (Journal.start s) masks).wanted with
        | none =>
            obtain ⟨hasked, hkept⟩ := hidle hwant
            obtain ⟨hasked', hkept'⟩ := hidle' (hwanted.trans hwant)
            exact ⟨hasked'.trans hasked.symm, fun _ => hkept'.trans (hpolicies.trans hkept.symm)⟩
        | some table =>
            obtain ⟨accepted, hasked, houtcomes, hleft⟩ := hwritten table hwant
            obtain ⟨accepted', hasked', houtcomes', hleft'⟩ :=
              hwritten' table (hwanted.trans hwant)
            refine ⟨hasked'.trans hasked.symm, fun houtcome => ?_⟩
            rw [houtcomes, houtcomes', List.singleton_inj] at houtcome
            rw [hleft, hleft', houtcome, hpolicies]
      case unreadable =>
        have hnone : (h.ruled snapshot (Journal.start s) masks).wanted = none := by
          have herror : readPolicies (Journal.start s) = .error e := herror
          rw [Round.wanted, policies_ruled, herror]
          exact ite_self none
        obtain ⟨hasked, hkept⟩ := hidle hnone
        exact ⟨hasked, hkept.trans herror⟩

/-- In one of two rounds the mask of slice 0 is refused.  Slice 1, which releases its own unit, and
the policies end up the same in both. -/
theorem isolated_evaluate_of_refused_mask :
    let inside : MemoryStore :=
      { MemoryStore.empty 8 with
        masks := .ofList [(1, ⟨[false, false, false, false, false, true, false, false]⟩)]
        policies := some (.ofList [(1, .waterfilling)]) }
    let s : Fickle MemoryStore := ⟨inside, []⟩
    let s' : Fickle MemoryStore := ⟨inside, [true]⟩
    let snapshot : Snapshot := .ofList
      [(0, ⟨2, .ofList [("dl_buffer [bytes]", 2500.0)]⟩),
        (1, ⟨3, .ofList [("tx_brate downlink [Mbps]", 0.125)]⟩)]
    let h : Heuristic := .ofSettings (.full 8) 2 .standard
    let j := (h.evaluate (Journal.start s) snapshot).2.2
    let j' := (h.evaluate (Journal.start s') snapshot).2.2
    j.outcomes (.mask 0) = [true] ∧ j'.outcomes (.mask 0) = [false] ∧
      j.outcomes (.mask 1) = [true] ∧ readMask j' 1 = readMask j 1 ∧
      readMask j 1 = .ok (.unassigned 8) ∧ j.outcomes .policies = [true] ∧
      readPolicies j' = readPolicies j ∧
      readPolicies j = .ok (.ofList [(0, .waterfilling), (1, .roundRobin)]) := by
  intro inside s s' snapshot h j j'
  have hmasks : ∀ slice, readMask s' slice = readMask s slice := fun _ => rfl
  obtain ⟨-, -, hfate, hpolicies, -⟩ :=
    isolated_evaluate MemoryStore.laws.fickle h (by decide) trivial trivial hmasks snapshot
  exact ⟨by decide +kernel, by decide +kernel, by decide +kernel,
    (hfate 1).2 (by decide +kernel), by decide +kernel, by decide +kernel,
    (hpolicies rfl).2.2 (by decide +kernel), by decide +kernel⟩

end Heuristic

end RanSlicing
