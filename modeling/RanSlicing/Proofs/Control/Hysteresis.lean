/-
Hysteresis over whole runs.

A band keeps a slice from changing with every flicker of its load: the unit of a rule is claimed
only above the band and released only below it, and the same holds of the switch to waterfilling
and back to round-robin.  `Rule.Follows` says this of the slice of a rule, for one round and
whichever of its writes are refused.  The two slices share the table of the policies, which is
written as a whole, so what the rules leave alone of it has to be followed through both of them.

What no round does no run does: `Heuristic.Keeps` collects what a run keeps from its beginning to
its end.  And while every rule stays within its band or is passed over, not a single write is
tried, which the journal of the run tells.
-/
import RanSlicing.Proofs.Control.Rounds
import RanSlicing.Proofs.Store.Fickle
import RanSlicing.Proofs.Store.Memory

namespace RanSlicing

open Store

variable {σ : Type} [Store σ]

/-! ### Records before and after -/

namespace Store

/-- With the unit taken out of it, the mask of the slice reads the same. -/
def SameBut (s t : σ) (slice unit : Nat) : Prop :=
  (readMask t slice).map (·.put unit false) = (readMask s slice).map (·.put unit false)

/-- The policy on record for a slice, as far as the record can be read. -/
def policyOf (s : σ) (slice : Nat) : Except Fault (Option Policy) :=
  (readPolicies s).map (·.get? slice)

theorem SameBut.of_eq {s t : σ} {slice : Nat} (h : readMask t slice = readMask s slice)
    (unit : Nat) : SameBut s t slice unit := by
  rw [SameBut, h]

theorem SameBut.trans {s t u : σ} {slice unit : Nat} (hst : SameBut s t slice unit)
    (htu : SameBut t u slice unit) : SameBut s u slice unit :=
  Eq.trans htu hst

theorem policyOf_congr {s t : σ} (h : readPolicies t = readPolicies s) (slice : Nat) :
    policyOf t slice = policyOf s slice := by
  rw [policyOf, policyOf, h]

end Store

theorem Gained.sameBut {s t : σ} {slice unit : Nat} (h : Gained s t slice unit) :
    SameBut s t slice unit := by
  obtain ⟨m, n, hm, hn, hgains⟩ := h
  rw [SameBut, hm, hn]
  exact congrArg Except.ok hgains.put_eq

/-! ### The slice of a rule -/

/-- The mask of the rule's slice swings with its load. -/
structure Rule.Swings (rule : Rule) (tenants : Nat) (snapshot : Snapshot) (s t : σ) : Prop where
  /-- No other unit changes hands. -/
  others : SameBut s t rule.slice rule.unit
  claimed : ¬Holds s rule.slice rule.unit → Holds t rule.slice rule.unit →
    rule.Above tenants snapshot
  released : Holds s rule.slice rule.unit → ¬Holds t rule.slice rule.unit →
    rule.Below tenants snapshot

/-- A policy on record turns with the load, if more than one user shares the slice. -/
def Rule.Turns (rule : Rule) (tenants : Nat) (snapshot : Snapshot)
    (before after : Except Fault (Option Policy)) : Prop :=
  after = before ∨ 1 < snapshot.userCount rule.slice ∧
    (rule.Above tenants snapshot ∧ after = .ok (some .waterfilling) ∨
      rule.Below tenants snapshot ∧ after = .ok (some .roundRobin))

/-- The slice of the rule follows its load, in its mask and in its policy. -/
structure Rule.Follows (rule : Rule) (tenants : Nat) (snapshot : Snapshot) (s t : σ) : Prop
    extends rule.Swings tenants snapshot s t where
  policy : rule.Turns tenants snapshot (policyOf s rule.slice) (policyOf t rule.slice)

section

variable {rule : Rule} {tenants : Nat} {snapshot : Snapshot} {s t s' t' : σ}

theorem Rule.Swings.of_eq (h : readMask t rule.slice = readMask s rule.slice) :
    rule.Swings tenants snapshot s t where
  others := .of_eq h rule.unit
  claimed hfree hheld := absurd ((holds_congr h rule.unit).1 hheld) hfree
  released hheld hfree := absurd ((holds_congr h rule.unit).2 hheld) hfree

/-- How a mask swings is not about the other records. -/
theorem Rule.Swings.congr (h : rule.Swings tenants snapshot s t)
    (hs : readMask s' rule.slice = readMask s rule.slice)
    (ht : readMask t' rule.slice = readMask t rule.slice) : rule.Swings tenants snapshot s' t' where
  others := by simpa only [SameBut, hs, ht] using h.others
  claimed := by simpa only [Holds, hs, ht] using h.claimed
  released := by simpa only [Holds, hs, ht] using h.released

theorem Rule.Swings.of_gained (habove : rule.Above tenants snapshot)
    (h : Gained s t rule.slice rule.unit) : rule.Swings tenants snapshot s t where
  others := h.sameBut
  claimed _ _ := habove
  released hheld _ := by
    obtain ⟨m, n, hm, -, hgains⟩ := h
    exact Bool.noConfusion (hgains.fresh.symm.trans ((holds_iff hm).1 hheld))

theorem Rule.Swings.of_lost (hbelow : rule.Below tenants snapshot)
    (h : Gained t s rule.slice rule.unit) : rule.Swings tenants snapshot s t where
  others := h.sameBut.symm
  claimed _ hheld := by
    obtain ⟨m, n, hm, -, hgains⟩ := h
    exact Bool.noConfusion (hgains.fresh.symm.trans ((holds_iff hm).1 hheld))
  released _ _ := hbelow

end

namespace Round

variable {sound : σ → Prop} {fits : Nat → Prop} {tenants : Nat} {snapshot : Snapshot}

/-- **A rule lets the mask of its slice swing**, whether its write is accepted or refused. -/
theorem obey_swings (laws : Laws sound fits) {r : Round (Journal σ)}
    (hr : InStep (fun j => sound j.store) tenants r) (pool : Pool) (rule : Rule) :
    rule.Swings tenants snapshot r.store (obey pool tenants snapshot r rule).store := by
  obtain ⟨hlength, hread⟩ := readMasks_eq_ok_iff.1 hr.read
  have hcarried := obey_carried laws hr pool snapshot rule
  generalize hproposal : rule.proposal tenants snapshot pool r.masks = proposal at hcarried
  cases hcarried with
  | settled hstore _ => exact .of_eq (by rw [hstore])
  | refused hsame _ _ => exact .of_eq (hsame.masks rule.slice)
  | accepted hwritten _ _ =>
      obtain ⟨hslice, hmoves⟩ := Rule.proposal_eq_write hlength hproposal
      have hbefore := hread rule.slice hslice
      have hafter := hwritten.readMask_self
      rcases hmoves with ⟨habove, hgains⟩ | ⟨hbelow, hgains⟩
      · exact .of_gained (Rule.above_of_verdict habove) ⟨_, _, hbefore, hafter, hgains⟩
      · exact .of_lost (Rule.below_of_verdict hbelow) ⟨_, _, hafter, hbefore, hgains⟩

/-- **Rules for different slices let the masks of these slices swing**, and no other. -/
theorem foldl_obey_swings (laws : Laws sound fits) (pool : Pool) (snapshot : Snapshot)
    {rules : List Rule} (hrules : rules.Pairwise fun a b => a.slice ≠ b.slice) {r : Round (Journal σ)}
    (hr : InStep (fun j => sound j.store) tenants r) :
    (∀ slice, (∀ rule ∈ rules, rule.slice ≠ slice) →
      readMask (rules.foldl (obey pool tenants snapshot) r).store slice =
        readMask r.store slice) ∧
    ∀ rule ∈ rules, rule.Swings tenants snapshot r.store
      (rules.foldl (obey pool tenants snapshot) r).store := by
  induction rules generalizing r with
  | nil => exact ⟨fun _ _ => rfl, fun _ h => absurd h List.not_mem_nil⟩
  | cons rule rest ih =>
      obtain ⟨hfirst, hrest⟩ := List.pairwise_cons.1 hrules
      have hcarried := obey_carried laws hr pool snapshot rule
      obtain ⟨hsame, hswings⟩ := ih hrest (obey_inStep pool laws.journal hr snapshot rule).1
      rw [List.foldl_cons]
      refine ⟨fun slice hslice => ?_, List.forall_mem_cons.2 ⟨?_, fun later hlater => ?_⟩⟩
      · obtain ⟨hne, hslice⟩ := List.forall_mem_cons.1 hslice
        rw [hsame slice hslice, hcarried.readMask_ne hne.symm]
      · exact (obey_swings laws hr pool rule).congr rfl
          (hsame rule.slice fun later hlater => (hfirst later hlater).symm)
      · exact (hswings later hlater).congr
          (hcarried.readMask_ne (hfirst later hlater).symm).symm rfl

end Round

/-- The switch that a rule wants turns the policy of its slice. -/
theorem Rule.turns_switched (rule : Rule) (tenants : Nat) (snapshot : Snapshot)
    (table : PolicyTable) :
    rule.Turns tenants snapshot (.ok (table.get? rule.slice))
      (.ok ((rule.switched tenants snapshot table).get? rule.slice)) := by
  cases hchange : rule.policyChange? tenants snapshot table with
  | none =>
      left
      rw [Rule.switched, hchange, PolicyTable.switched]
  | some change =>
      right
      obtain ⟨husers, -, hmoves⟩ := policyChange?_eq_some hchange
      have hget : (rule.switched tenants snapshot table).get? rule.slice = some change.current := by
        rw [Rule.switched, hchange, PolicyTable.switched, SortedMap.get?_insert_self]
      rw [hget]
      refine ⟨husers, ?_⟩
      rcases hmoves with ⟨hcurrent, habove⟩ | ⟨hcurrent, hbelow⟩
      · exact .inl ⟨habove, by rw [hcurrent]⟩
      · exact .inr ⟨hbelow, by rw [hcurrent]⟩

/-- **Rules for different slices turn the policies of these slices**, although they share a
table. -/
theorem turns_switchedBy {tenants : Nat} {snapshot : Snapshot} {rules : List Rule}
    (hrules : rules.Pairwise fun a b => a.slice ≠ b.slice) (table : PolicyTable) :
    ∀ rule ∈ rules, rule.Turns tenants snapshot (.ok (table.get? rule.slice))
      (.ok ((switchedBy tenants snapshot rules table).get? rule.slice)) := by
  induction rules generalizing table with
  | nil => exact fun _ h => absurd h List.not_mem_nil
  | cons first rest ih =>
      obtain ⟨hfirst, hrest⟩ := List.pairwise_cons.1 hrules
      have hfold : switchedBy tenants snapshot (first :: rest) table =
          switchedBy tenants snapshot rest (first.switched tenants snapshot table) := rfl
      rw [hfold]
      refine List.forall_mem_cons.2 ⟨?_, fun rule hrule => ?_⟩
      · rw [get?_switchedBy fun later hlater => (hfirst later hlater).symm]
        exact first.turns_switched tenants snapshot table
      · have hsame : (first.switched tenants snapshot table).get? rule.slice =
            table.get? rule.slice := table.get?_switched_ne (hfirst rule hrule).symm _
        rw [← hsame]
        exact ih hrest _ rule hrule

namespace Heuristic

/-! ### Rounds and runs -/

/-- What the controller keeps, however often it is called. -/
structure Keeps (h : Heuristic) (s t : σ) : Prop where
  masks : ∀ slice, 2 ≤ slice → readMask t slice = readMask s slice
  policies : ∀ slice, 2 ≤ slice → policyOf t slice = policyOf s slice
  buffer : SameBut s t 0 h.bufferUnit
  throughput : SameBut s t 1 h.throughputUnit
  /-- No slice comes to be served proportionally. -/
  proportional : ∀ slice, policyOf t slice = .ok (some .proportional) →
    policyOf s slice = .ok (some .proportional)

theorem Keeps.refl (h : Heuristic) (s : σ) : h.Keeps s s where
  masks _ _ := rfl
  policies _ _ := rfl
  buffer := .of_eq rfl _
  throughput := .of_eq rfl _
  proportional _ := id

theorem Keeps.trans {h : Heuristic} {s t u : σ} (hst : h.Keeps s t) (htu : h.Keeps t u) :
    h.Keeps s u where
  masks slice hslice := (htu.masks slice hslice).trans (hst.masks slice hslice)
  policies slice hslice := (htu.policies slice hslice).trans (hst.policies slice hslice)
  buffer := hst.buffer.trans htu.buffer
  throughput := hst.throughput.trans htu.throughput
  proportional slice hafter := hst.proportional slice (htu.proportional slice hafter)

theorem ne_of_mem_rules {h : Heuristic} {slice : Nat} (hslice : 2 ≤ slice) :
    ∀ rule ∈ h.rules, rule.slice ≠ slice := by
  intro rule hrule heq
  have hlow : rule.slice < 2 := by
    simp only [rules, List.mem_cons, List.not_mem_nil, or_false] at hrule
    rcases hrule with rfl | rfl
    · exact Nat.zero_lt_two
    · exact Nat.one_lt_two
  omega

/-- Slices that follow their load on a store that is otherwise left alone. -/
theorem Keeps.of_follows {h : Heuristic} {snapshot : Snapshot} {s t : σ}
    (hmasks : ∀ slice, 2 ≤ slice → readMask t slice = readMask s slice)
    (hpolicies : ∀ slice, 2 ≤ slice → policyOf t slice = policyOf s slice)
    (hrules : ∀ rule ∈ h.rules, rule.Follows h.tenants snapshot s t) : h.Keeps s t := by
  have hbuffer := hrules _ (List.mem_cons_self ..)
  have hthroughput := hrules _ (List.mem_cons_of_mem _ (List.mem_cons_self ..))
  have hserved (rule : Rule) (hrule : rule.Follows h.tenants snapshot s t)
      (hafter : policyOf t rule.slice = .ok (some .proportional)) :
      policyOf s rule.slice = .ok (some .proportional) := by
    rcases hrule.policy with hsame | ⟨-, ⟨-, hswitched⟩ | ⟨-, hswitched⟩⟩
    · rw [← hsame, hafter]
    · rw [hswitched] at hafter
      simp at hafter
    · rw [hswitched] at hafter
      simp at hafter
  refine ⟨hmasks, hpolicies, hbuffer.others, hthroughput.others, fun slice hafter => ?_⟩
  match slice, hafter with
  | 0, hafter => exact hserved _ hbuffer hafter
  | 1, hafter => exact hserved _ hthroughput hafter
  | slice + 2, hafter => rw [← hpolicies (slice + 2) (by omega), hafter]

variable {sound : σ → Prop} {fits : Nat → Prop}

/-- What a round leaves of the policies on record: what was there, or that with the switches. -/
theorem readPolicies_evaluate (laws : Laws sound fits) {h : Heuristic} {j : Journal σ}
    (hs : sound j.store) (snapshot : Snapshot) :
    readPolicies (h.evaluate j snapshot).2.2 = readPolicies j ∨
      ∃ old, readPolicies j = .ok old ∧ readPolicies (h.evaluate j snapshot).2.2 =
        .ok (switchedBy h.tenants snapshot h.rules old) := by
  cases hmasks : readMasks j h.tenants with
  | error e =>
      rw [evaluate_of_unreadable hmasks]
      exact .inl rfl
  | ok masks =>
      have hruled := readPolicies_ruled laws hs hmasks snapshot
      have hclosed := Round.close_closed laws (ruled_inStep laws hs hmasks snapshot).sound
      rw [evaluate_of_readable hmasks]
      cases hclosed with
      | idle _ hstore => exact .inl (by rw [hstore, hruled])
      | refused _ _ hsame _ => exact .inl (hsame.policies.trans hruled)
      | accepted htable _ hwritten _ =>
          obtain ⟨hafter, old, hold, rfl⟩ :=
            readPolicies_of_written laws hs hmasks htable hwritten
          exact .inr ⟨old, hold, hafter⟩

/-- A round lets the masks of its rules' slices swing and leaves the others alone. -/
theorem evaluate_swings (laws : Laws sound fits) {h : Heuristic} {j : Journal σ}
    (hs : sound j.store) (snapshot : Snapshot) :
    let k := (h.evaluate j snapshot).2.2
    (∀ slice, 2 ≤ slice → readMask k slice = readMask j slice) ∧
      ∀ rule ∈ h.rules, rule.Swings h.tenants snapshot j k := by
  intro k
  cases hmasks : readMasks j h.tenants with
  | error e =>
      have hk : k = j := by simp only [k, evaluate_of_unreadable hmasks]
      rw [hk]
      exact ⟨fun _ _ => rfl, fun _ _ => .of_eq rfl⟩
  | ok masks =>
      have hk : k = (h.ruled snapshot j masks).close.store := by
        simp only [k, evaluate_of_readable hmasks]
      obtain ⟨hsame, hswings⟩ := Round.foldl_obey_swings laws h.pool snapshot h.slices_of_rules
        (opening_inStep hs hmasks)
      have hclosed := Round.close_closed laws (ruled_inStep laws hs hmasks snapshot).sound
      rw [store_opening] at hsame hswings
      rw [hk]
      refine ⟨fun slice hslice => ?_, fun rule hrule => ?_⟩
      · exact (hclosed.masks slice).trans (hsame slice (ne_of_mem_rules hslice))
      · exact (hswings rule hrule).congr rfl (hclosed.masks rule.slice)

/-- A round turns the policies of its rules' slices and leaves the others alone. -/
theorem evaluate_turns (laws : Laws sound fits) {h : Heuristic} {j : Journal σ}
    (hs : sound j.store) (snapshot : Snapshot) :
    let k := (h.evaluate j snapshot).2.2
    (∀ slice, 2 ≤ slice → policyOf k slice = policyOf j slice) ∧
      ∀ rule ∈ h.rules,
        rule.Turns h.tenants snapshot (policyOf j rule.slice) (policyOf k rule.slice) := by
  intro k
  rcases readPolicies_evaluate laws hs snapshot with hsame | ⟨old, hold, hnew⟩
  · exact ⟨fun slice _ => policyOf_congr hsame slice,
      fun rule _ => .inl (policyOf_congr hsame rule.slice)⟩
  · have hbefore (slice : Nat) : policyOf j slice = .ok (old.get? slice) := by
      rw [policyOf, hold]
      rfl
    have hafter (slice : Nat) : policyOf k slice =
        .ok ((switchedBy h.tenants snapshot h.rules old).get? slice) := by
      rw [policyOf, hnew]
      rfl
    refine ⟨fun slice hslice => ?_, fun rule hrule => ?_⟩
    · rw [hafter, hbefore, get?_switchedBy (ne_of_mem_rules hslice)]
    · rw [hafter, hbefore]
      exact turns_switchedBy h.slices_of_rules old rule hrule

/-- **A round lets the slices of its rules follow their load**, and leaves the others alone. -/
theorem evaluate_follows (laws : Laws sound fits) {h : Heuristic} {j : Journal σ}
    (hs : sound j.store) (snapshot : Snapshot) :
    let k := (h.evaluate j snapshot).2.2
    h.Keeps j k ∧ ∀ rule ∈ h.rules, rule.Follows h.tenants snapshot j k := by
  intro k
  obtain ⟨hmasks, hswings⟩ := evaluate_swings laws (h := h) hs snapshot
  obtain ⟨hpolicies, hturns⟩ := evaluate_turns laws (h := h) hs snapshot
  have hfollows : ∀ rule ∈ h.rules, rule.Follows h.tenants snapshot j k :=
    fun rule hrule => ⟨hswings rule hrule, hturns rule hrule⟩
  exact ⟨.of_follows hmasks hpolicies hfollows, hfollows⟩

/-- A run keeps what each of its rounds keeps. -/
theorem after_keeps (laws : Laws sound fits) (h : Heuristic) {j : Journal σ} (hs : sound j.store)
    (snapshots : List Snapshot) : h.Keeps j (h.after j snapshots).2 := by
  induction snapshots generalizing h j with
  | nil => exact .refl h j
  | cons snapshot rest ih =>
      rw [after_cons]
      have hround := (evaluate_follows laws (h := h) hs snapshot).1
      have hrest := ih { h with round := h.round + 1 } (evaluate_safe laws.journal h hs snapshot).1
      exact hround.trans
        ⟨hrest.masks, hrest.policies, hrest.buffer, hrest.throughput, hrest.proportional⟩

/-- No rule finds a value beyond its band: each of them is passed over or within. -/
def Quiet (h : Heuristic) (snapshot : Snapshot) : Prop :=
  ∀ rule ∈ h.rules, ¬rule.Above h.tenants snapshot ∧ ¬rule.Below h.tenants snapshot

instance (h : Heuristic) (snapshot : Snapshot) : Decidable (h.Quiet snapshot) :=
  inferInstanceAs (Decidable (∀ rule ∈ h.rules, _))

theorem Quiet.atRest {h : Heuristic} {snapshot : Snapshot} (hquiet : h.Quiet snapshot) (s : σ) :
    h.AtRest snapshot s := fun masks _ rule hrule =>
  Rule.rests_of_within
    (Rule.verdict_eq_within (hquiet rule hrule).1 (hquiet rule hrule).2) masks _

/-- **Hysteresis**, over any run from any sound store and whichever of its writes are refused.  The
run keeps the masks and the policies of the slices that have no rule and, in those that have one,
every unit but that of the rule; no slice comes to be served proportionally.  A unit is claimed
only in a round above the band of its rule and released only in a round below it, and a policy is
switched only there, for more than one user, to waterfilling or to round-robin.  In a stretch of
rounds in which each rule is within its band or passed over no write is tried. -/
theorem hysteresis_after (laws : Laws sound fits) (h : Heuristic) {s : σ} (hs : sound s)
    (past : List Snapshot) :
    let j := (h.after (Journal.start s) past).2
    j.store = (h.after s past).2 ∧ h.Keeps s j.store ∧
      (∀ snapshot, ∀ rule ∈ h.rules, rule.Follows h.tenants snapshot j.store
        (h.after s (past ++ [snapshot])).2) ∧
      ∀ quiet : List Snapshot, (∀ snapshot ∈ quiet, h.Quiet snapshot) →
        (h.after (Journal.start s) (past ++ quiet)).2 = j := by
  intro j
  have hsound : sound j.store := sound_after laws.journal h (s := Journal.start s) hs past
  refine ⟨h.after_journal (Journal.start s) past, ?_, fun snapshot rule hrule => ?_,
    fun quiet hquiet => ?_⟩
  · obtain ⟨hmasks, hpolicies, hbuffer, hthroughput, hproportional⟩ :=
      after_keeps laws h (j := Journal.start s) hs past
    exact ⟨hmasks, hpolicies, hbuffer, hthroughput, hproportional⟩
  · have hafter := h.after_journal (Journal.start s) (past ++ [snapshot])
    rw [after_concat] at hafter
    obtain ⟨⟨hothers, hclaimed, hreleased⟩, hpolicy⟩ :=
      (evaluate_follows laws (h := { h with round := h.round + past.length }) hsound snapshot).2
        rule hrule
    rw [show (h.after s (past ++ [snapshot])).2 = _ from hafter.symm]
    exact ⟨⟨hothers, hclaimed, hreleased⟩, hpolicy⟩
  · rw [after_append, settings_after]
    exact after_of_atRest { h with round := h.round + past.length } fun snapshot hmem =>
      (hquiet snapshot hmem).atRest j

/-- Slice 0 is above its band, first refused and then granted its unit; it was served
proportionally.  Then a quiet round passes. -/
theorem hysteresis_after_refusal :
    let s : Fickle MemoryStore :=
      ⟨{ MemoryStore.empty 8 with policies := some (.ofList [(0, .proportional)]) }, [true, true]⟩
    let busy : Snapshot := .ofList [(0, ⟨2, .ofList [("dl_buffer [bytes]", 2500.0)]⟩)]
    let calm : Snapshot := .ofList [(0, ⟨2, .ofList [("dl_buffer [bytes]", 1500.0)]⟩)]
    let h : Heuristic := .ofSettings (.full 8) 2 .standard
    let j := (h.after (Journal.start s) [busy, busy]).2
    j.attempts.map Attempt.accepted = [false, false, true, true] ∧
      policyOf s 0 = .ok (some .proportional) ∧ policyOf j.store 0 = .ok (some .waterfilling) ∧
      h.Keeps s j.store ∧ (h.after (Journal.start s) ([busy, busy] ++ [calm])).2 = j := by
  intro s busy calm h j
  obtain ⟨-, hkeeps, -, hquiet⟩ :=
    h.hysteresis_after MemoryStore.laws.fickle (s := s) trivial [busy, busy]
  have hcalm : h.Quiet calm := by decide +kernel
  exact ⟨by decide +kernel, by decide +kernel, by decide +kernel, hkeeps,
    hquiet [calm] (by simpa using hcalm)⟩

end Heuristic

end RanSlicing
