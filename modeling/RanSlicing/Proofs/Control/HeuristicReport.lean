/-
The report of the controller that follows the load is true.

The rules of a round share the copies of the masks and of the policies, and any of their writes may
be refused.  What keeps the report true is that each rule is alone with its slice: `Account` says
that everything reported so far is true of the slices below the next rule's, and that the records
from there on are as they were.  `obey_moved` is what one rule does, whichever way its write goes,
and `Account.obey` carries the account across it.

The policies are written once, at the end, so the account keeps their table apart from the record.
If the write is accepted the table is the record; if it is refused the record is the old one, and
the report says neither that it was written nor that nothing went wrong.
-/
import RanSlicing.Proofs.Control.Rule
import RanSlicing.Proofs.Store.Memory

namespace RanSlicing

open Store
open Number (wordMax)

variable {σ : Type} [Store σ]

/-- What a refused write is reported as. -/
def Attempt.incident? : Attempt → Option Incident
  | .mask slice _ (.error e) => some (.store (.writingMask slice) e)
  | .policies _ (.error e) => some (.store .writingPolicies e)
  | _ => none

/-! ### One rule -/

namespace Round

/-- What a rule does to the records, and what it enters of that in the report. -/
structure Moved (tenants slice : Nat) (change : Option MaskChange) (r r' : Round (Journal σ)) :
    Prop where
  told : MaskTold r.store.store r'.store.store slice change
  others : ∀ other, other ≠ slice → readMask r'.store other = readMask r.store other
  record : readPolicies r'.store = readPolicies r.store
  copy : r'.policies = r.policies
  decisions : r'.report.decisions = r.report.decisions
  listed : r'.report.masksWritten = r.report.masksWritten ++
    if readMask r'.store slice = readMask r.store slice then [] else [slice]
  configured : readMask r'.store slice ≠ readMask r.store slice → slice < tenants
  pending : r'.report.policiesWritten = r.report.policiesWritten
  entered : ∃ attempts, r'.store.attempts = r.store.attempts ++ attempts ∧
    r'.report.incidents = r.report.incidents ++ attempts.filterMap Attempt.incident?

/-- A round that is left as it is. -/
theorem Moved.refl (tenants slice : Nat) {change : Option MaskChange} (h : Still change)
    (r : Round (Journal σ)) : Moved tenants slice change r r where
  told := .of_still h rfl
  others _ _ := rfl
  record := rfl
  copy := rfl
  decisions := rfl
  listed := by rw [if_pos rfl, List.append_nil]
  configured hne := absurd rfl hne
  pending := rfl
  entered := ⟨[], by simp, by simp⟩

variable {sound : σ → Prop} {fits : Nat → Prop} {tenants : Nat}

/-- **A proposal is carried out as it is reported**, whether its write is accepted or refused. -/
theorem carryOut_moved (laws : Laws sound fits) {r : Round (Journal σ)}
    (hr : InStep (fun j => sound j.store) tenants r) (pool : Pool) {slice : Nat}
    (hslice : slice < tenants) (unit : Nat) (verdict : Verdict) :
    Moved tenants slice
      (some (r.carryOut slice unit (.ofVerdict pool r.masks slice unit verdict)).1) r
      (r.carryOut slice unit (.ofVerdict pool r.masks slice unit verdict)).2 := by
  obtain ⟨hlength, hread⟩ := readMasks_eq_ok_iff.1 hr.read
  have hlt : slice < r.masks.length := by omega
  generalize hproposal : Proposal.ofVerdict pool r.masks slice unit verdict = proposal
  cases proposal with
  | settled change => exact .refl tenants slice (Proposal.still_of_settled hproposal) r
  | write mask change =>
      have hmoves := Proposal.moves_of_write hlt hproposal
      have hfits : fits mask.width := hr.fits_of_write laws.journal hlt hproposal
      cases hwrite : writeMask r.store slice mask with
      | mk answer k =>
          obtain ⟨hstore, hattempts⟩ := Journal.writeMask_eq_iff.1 hwrite
          cases answer with
          | error e =>
              obtain ⟨-, hsame⟩ := laws.mask_refused hr.sound hstore
              have hunchanged : readMask k slice = readMask r.store slice := hsame.masks slice
              simp only [carryOut, hwrite]
              exact
                { told := .of_still (by simp [Still]) hunchanged
                  others := fun other _ => hsame.masks other
                  record := hsame.policies
                  copy := rfl
                  decisions := rfl
                  listed := by simp only [hunchanged, if_true, List.append_nil]
                  configured := fun _ => hslice
                  pending := rfl
                  entered := ⟨_, hattempts, rfl⟩ }
          | ok u =>
              obtain ⟨-, hwritten⟩ := laws.mask_accepted hr.sound hfits hstore
              have hbefore : readMask r.store slice = .ok r.masks[slice] := hread slice hlt
              have hafter : readMask k slice = .ok mask := hwritten.readMask_self
              have htold : MaskTold r.store.store k.store slice (some change) := by
                rcases hmoves with ⟨-, rfl, hgains⟩ | ⟨-, rfl, hgains⟩
                · exact .of_claimed ⟨_, _, hbefore, hafter, hgains⟩
                · exact .of_released ⟨_, _, hafter, hbefore, hgains⟩
              have hne : readMask k slice ≠ readMask r.store slice := by
                rcases hmoves with ⟨-, rfl, -⟩ | ⟨-, rfl, -⟩
                · exact ((htold.claimed unit).1 rfl).ne
                · exact ((htold.released unit).1 rfl).ne.symm
              simp only [carryOut, hwrite]
              exact
                { told := htold
                  others := fun other hother => hwritten.readMask_ne hother
                  record := hwritten.policies
                  copy := rfl
                  decisions := rfl
                  listed := by simp only [hne, if_false]
                  configured := fun _ => hslice
                  pending := rfl
                  entered := ⟨_, hattempts, (List.append_nil _).symm⟩ }

/-- **A rule does what its decision says.** -/
theorem obey_moved (laws : Laws sound fits) {r : Round (Journal σ)}
    (hr : InStep (fun j => sound j.store) tenants r) {table : PolicyTable}
    (htable : r.policies = some table) (pool : Pool) (snapshot : Snapshot) (rule : Rule) :
    ∃ r' d, d.slice = rule.slice ∧ Moved tenants rule.slice d.outcome.maskChange? r r' ∧
      obey pool tenants snapshot r rule =
        (r'.switch rule.slice d.outcome.policyChange?).decide d ∧
      ∀ old : PolicyTable, table.get? rule.slice = old.get? rule.slice →
        PolicyTold old (table.switched rule.slice d.outcome.policyChange?) rule.slice
          d.outcome.policyChange? := by
  cases hmeasure : rule.measure tenants snapshot with
  | error reason =>
      refine ⟨r, ⟨rule.slice, rule.metric, snapshot.userCount rule.slice, .skipped reason⟩, rfl,
        .refl tenants rule.slice still_none r, ?_, fun old h =>
        ⟨fun _ => h, fun c hc => by cases hc⟩⟩
      simp only [obey, hmeasure]
      rfl
  | ok value =>
      have hslice := Rule.lt_of_measure hmeasure
      have hmoved := carryOut_moved laws hr pool hslice rule.unit (rule.threshold.classify value)
      refine ⟨_, ⟨rule.slice, rule.metric, snapshot.userCount rule.slice,
        .evaluated ⟨value, rule.threshold, rule.threshold.classify value, _,
          (rule.threshold.classify value).policyChange? table rule.slice
            (snapshot.userCount rule.slice)⟩⟩, rfl, hmoved, ?_, fun old h =>
        Verdict.policyTold h _ _⟩
      have htable' := hmoved.copy.trans htable
      simp only [obey, hmeasure, htable', Option.bind_some]
      rfl

/-! ### The rules one after the other -/

/-- What has been reported is true of the slices below `bound`, and nothing has happened to the
others. -/
structure Account (tenants : Nat) (s : σ) (old table : PolicyTable) (bound : Nat)
    (r : Round (Journal σ)) : Prop where
  copy : r.policies = some table
  record : readPolicies r.store.store = .ok old
  /-- The table can be written. -/
  grown : Extends old table
  below : ∀ d ∈ r.report.decisions, d.slice < bound
  masks : ∀ d ∈ r.report.decisions, MaskTold s r.store.store d.slice d.outcome.maskChange?
  policies : ∀ d ∈ r.report.decisions, PolicyTold old table d.slice d.outcome.policyChange?
  /-- Nothing has happened to a slice for which nothing was decided. -/
  silent : ∀ slice, (∀ d ∈ r.report.decisions, d.slice ≠ slice) →
    readMask r.store.store slice = readMask s slice ∧ table.get? slice = old.get? slice
  ascending : r.report.masksWritten.Pairwise (· < ·)
  listed : ∀ slice, slice ∈ r.report.masksWritten ↔
    readMask r.store.store slice ≠ readMask s slice
  configured : ∀ slice ∈ r.report.masksWritten, slice < tenants
  pending : r.report.policiesWritten = false
  incidents : r.report.incidents = r.store.attempts.filterMap Attempt.incident?

variable {s : σ} {old table : PolicyTable} {bound : Nat} {r r' : Round (Journal σ)}

theorem Account.start (hpolicies : readPolicies s = .ok old) (masks : List Mask) (round : Nat) :
    Account tenants s old old 0 ⟨Journal.start s, masks, some old, { round }⟩ where
  copy := rfl
  record := hpolicies
  grown := .refl old
  below _ hd := absurd hd List.not_mem_nil
  masks _ hd := absurd hd List.not_mem_nil
  policies _ hd := absurd hd List.not_mem_nil
  silent _ _ := ⟨rfl, rfl⟩
  ascending := .nil
  listed _ := iff_of_false List.not_mem_nil fun hne => hne rfl
  configured _ hslice := absurd hslice List.not_mem_nil
  pending := rfl
  incidents := rfl

/-- What was listed has been decided on. -/
theorem Account.lt_of_listed (h : Account tenants s old table bound r) {slice : Nat}
    (hslice : slice ∈ r.report.masksWritten) : slice < bound := by
  by_contra hge
  have hsilent := h.silent slice fun d hd heq => hge (heq ▸ h.below d hd)
  exact (h.listed slice).1 hslice hsilent.1

theorem Moved.mem_listed {slice : Nat} {change : Option MaskChange}
    (h : Moved tenants slice change r r') {other : Nat} :
    other ∈ r'.report.masksWritten ↔ other ∈ r.report.masksWritten ∨
      other = slice ∧ readMask r'.store slice ≠ readMask r.store slice := by
  rw [h.listed]
  split <;> simp [*]

/-- The list of a round stays in order, for what a rule adds comes after all that was listed. -/
theorem Account.ascending_of_moved (h : Account tenants s old table bound r) {slice : Nat}
    (hbound : bound ≤ slice) {change : Option MaskChange}
    (hmoved : Moved tenants slice change r r') :
    r'.report.masksWritten.Pairwise (· < ·) := by
  rw [hmoved.listed]
  split
  · simpa using h.ascending
  · refine List.pairwise_append.2 ⟨h.ascending, List.pairwise_singleton _ _, ?_⟩
    intro other hother last hlast
    have := h.lt_of_listed hother
    rw [List.mem_singleton.1 hlast]
    omega

/-- The list of a round stays that of the masks that differ from those at its start. -/
theorem Account.listed_of_moved (h : Account tenants s old table bound r) {slice : Nat}
    (hbefore : readMask r.store.store slice = readMask s slice) {change : Option MaskChange}
    (hmoved : Moved tenants slice change r r') (other : Nat) :
    other ∈ r'.report.masksWritten ↔ readMask r'.store.store other ≠ readMask s other := by
  rw [hmoved.mem_listed, h.listed]
  by_cases heq : other = slice
  · rw [heq, hbefore]
    simp only [ne_eq, not_true_eq_false, false_or, true_and]
    exact not_congr (by rw [← hbefore]; rfl)
  · have hother : readMask r'.store.store other = readMask r.store.store other :=
      hmoved.others other heq
    simp [heq, hother]

/-- What a rule lists is a configured slice. -/
theorem Account.configured_of_moved (h : Account tenants s old table bound r) {slice : Nat}
    {change : Option MaskChange} (hmoved : Moved tenants slice change r r') :
    ∀ other ∈ r'.report.masksWritten, other < tenants := by
  intro other hother
  rcases hmoved.mem_listed.1 hother with hold | ⟨rfl, hchanged⟩
  · exact h.configured other hold
  · exact hmoved.configured hchanged

/-- What became of the writes of a rule is entered behind what was entered before. -/
theorem Account.incidents_of_moved (h : Account tenants s old table bound r) {slice : Nat}
    {change : Option MaskChange} (hmoved : Moved tenants slice change r r') :
    r'.report.incidents = r'.store.attempts.filterMap Attempt.incident? := by
  obtain ⟨attempts, hattempts, hincidents⟩ := hmoved.entered
  rw [hattempts, List.filterMap_append, ← h.incidents, ← hincidents]

/-- **The account is carried across a rule** for a slice of its own. -/
theorem Account.obey (h : Account tenants s old table bound r) {slice : Nat}
    (hbound : bound ≤ slice) (hword : slice ≤ wordMax) {d : Decision} (hd : d.slice = slice)
    (hmoved : Moved tenants slice d.outcome.maskChange? r r')
    (htold : PolicyTold old (table.switched slice d.outcome.policyChange?) slice
      d.outcome.policyChange?) :
    Account tenants s old (table.switched slice d.outcome.policyChange?) (slice + 1)
      ((r'.switch slice d.outcome.policyChange?).decide d) := by
  have hfresh : ∀ d' ∈ r.report.decisions, d'.slice ≠ slice := fun d' hd' heq => by
    have := h.below d' hd'
    omega
  have hbefore : readMask r.store.store slice = readMask s slice := (h.silent slice hfresh).1
  have hdecisions : ((r'.switch slice d.outcome.policyChange?).decide d).report.decisions =
      r.report.decisions ++ [d] := by
    rw [Round.decide, report_switch, hmoved.decisions]
  have hlists : ((r'.switch slice d.outcome.policyChange?).decide d).report.masksWritten =
      r'.report.masksWritten := by
    rw [Round.decide, report_switch]
  have hstore : ((r'.switch slice d.outcome.policyChange?).decide d).store = r'.store := by
    rw [store_decide, store_switch]
  refine
    { copy := policies_switch (hmoved.copy.trans h.copy) slice d.outcome.policyChange?
      record := ?record
      grown := ?grown
      below := ?below
      masks := ?masks
      policies := ?policies
      silent := ?silent
      ascending := ?ascending
      listed := ?listed
      configured := ?configured
      pending := ?pending
      incidents := ?incidents }
  case record =>
    rw [hstore]
    exact hmoved.record.trans h.record
  case grown =>
    cases d.outcome.policyChange? with
    | none => exact h.grown
    | some change => exact h.grown.insert hword change.current
  case below =>
    rw [hdecisions, List.forall_mem_append, List.forall_mem_singleton, hd]
    refine ⟨fun d' hold => ?_, Nat.lt_succ_self slice⟩
    have := h.below d' hold
    omega
  case masks =>
    rw [hdecisions, hstore, List.forall_mem_append, List.forall_mem_singleton, hd]
    refine ⟨fun d' hold => ?_, ?_⟩
    · -- An earlier decision is about another slice, whose mask this rule leaves alone.
      exact (h.masks d' hold).congr rfl (hmoved.others d'.slice (hfresh d' hold))
    · -- What the rule found is what the round started from.
      exact hmoved.told.congr hbefore.symm rfl
  case policies =>
    rw [hdecisions, List.forall_mem_append, List.forall_mem_singleton, hd]
    refine ⟨fun d' hold => ?_, htold⟩
    exact (h.policies d' hold).congr (table.get?_switched_ne (hfresh d' hold) _)
  case silent =>
    rw [hdecisions, hstore]
    intro other hother
    have hne : other ≠ slice := fun heq => hother d (by simp) (hd.trans heq.symm)
    obtain ⟨hmask, hpolicy⟩ := h.silent other fun d' hd' => hother d' (by simp [hd'])
    exact ⟨(hmoved.others other hne).trans hmask, (table.get?_switched_ne hne _).trans hpolicy⟩
  case ascending =>
    rw [hlists]
    exact h.ascending_of_moved hbound hmoved
  case listed =>
    rw [hlists, hstore]
    exact h.listed_of_moved hbefore hmoved
  case configured =>
    rw [hlists]
    exact h.configured_of_moved hmoved
  case pending =>
    rw [Round.decide, report_switch]
    exact hmoved.pending.trans h.pending
  case incidents =>
    rw [hstore, Round.decide, report_switch]
    exact h.incidents_of_moved hmoved

/-- **Rules for ascending slices leave a true account behind**, with a decision for each of
them. -/
theorem foldl_obey_account (laws : Laws sound fits) (pool : Pool) (snapshot : Snapshot) :
    ∀ (rules : List Rule), rules.Pairwise (fun a b => a.slice < b.slice) →
      ∀ {table : PolicyTable} {bound : Nat} {r : Round (Journal σ)},
        (∀ rule ∈ rules, bound ≤ rule.slice ∧ rule.slice ≤ wordMax) →
        InStep (fun j => sound j.store) tenants r → Account tenants s old table bound r →
        ∃ table' bound',
          Account tenants s old table' bound' (rules.foldl (obey pool tenants snapshot) r) ∧
          InStep (fun j => sound j.store) tenants (rules.foldl (obey pool tenants snapshot) r) ∧
          (rules.foldl (obey pool tenants snapshot) r).report.decisions.map Decision.slice =
            r.report.decisions.map Decision.slice ++ rules.map Rule.slice := by
  intro rules
  induction rules with
  | nil => intro _ table bound r _ hr h; exact ⟨table, bound, h, hr, (List.append_nil _).symm⟩
  | cons rule rest ih =>
      intro hrules table bound r hbounds hr h
      obtain ⟨hlow, hrest⟩ := List.pairwise_cons.1 hrules
      obtain ⟨⟨hbound, hword⟩, hbounds⟩ := List.forall_mem_cons.1 hbounds
      obtain ⟨r', d, hd, hmoved, hobey, htold⟩ := obey_moved laws hr h.copy pool snapshot rule
      have hsilent := h.silent rule.slice fun d' hd' heq => by
        have := h.below d' hd'
        omega
      have hstep : InStep (fun j => sound j.store) tenants (obey pool tenants snapshot r rule) :=
        (obey_inStep pool laws.journal hr snapshot rule).1
      have haccount := h.obey hbound hword hd hmoved (htold old hsilent.2)
      have hbounds' : ∀ next ∈ rest, rule.slice + 1 ≤ next.slice ∧ next.slice ≤ wordMax :=
        fun next hnext => ⟨hlow next hnext, (hbounds next hnext).2⟩
      rw [List.foldl_cons]
      obtain ⟨table', bound', haccount', hstep', hdecisions⟩ :=
        ih hrest hbounds' hstep (hobey ▸ haccount)
      refine ⟨table', bound', haccount', hstep', hdecisions.trans ?_⟩
      rw [hobey, Round.decide, report_switch, hmoved.decisions, List.map_append, List.append_assoc,
        List.map_singleton, hd]
      rfl

end Round

/-! ### The whole round -/

/-- What the report of a round says is what happened between two states of the store, where `old`
and `new` are the policies on record and `attempts` the writes that were tried. -/
structure Report.Truthful (tenants : Nat) (s t : σ) (old new : PolicyTable)
    (attempts : List Attempt) (r : Report) : Prop where
  /-- Each slice is listed once, in order. -/
  ascending : r.masksWritten.Pairwise (· < ·)
  /-- Listed are the configured slices whose masks changed. -/
  listed : ∀ slice, slice ∈ r.masksWritten ↔ slice < tenants ∧ readMask t slice ≠ readMask s slice
  untouched : ∀ slice, tenants ≤ slice → readMask t slice = readMask s slice
  masks : ∀ d ∈ r.decisions, MaskTold s t d.slice d.outcome.maskChange?
  written : r.policiesWritten = true ↔ new ≠ old
  /-- The policies that were switched are those of the decisions that say so. -/
  switched : r.policiesWritten = true → ∀ slice, new.inForce slice ≠ old.inForce slice ↔
    ∃ d ∈ r.decisions, d.slice = slice ∧ d.outcome.policyChange?.isSome = true
  switches : r.policiesWritten = true → ∀ d ∈ r.decisions, ∀ c,
    d.outcome.policyChange? = some c →
      old.inForce d.slice = c.previous ∧ new.inForce d.slice = c.current
  incidents : r.incidents = attempts.filterMap Attempt.incident?

namespace Round

variable {sound : σ → Prop} {fits : Nat → Prop} {tenants : Nat} {s : σ} {old table : PolicyTable}
  {bound : Nat} {r : Round (Journal σ)}

omit [Store σ] in
theorem hasSwitched_iff : r.hasSwitched = true ↔
    ∃ d ∈ r.report.decisions, d.outcome.policyChange?.isSome = true := List.any_eq_true

/-- The policies in force differ exactly where a decision says so. -/
theorem Account.switched_iff (h : Account tenants s old table bound r) (slice : Nat) :
    table.inForce slice ≠ old.inForce slice ↔
      ∃ d ∈ r.report.decisions, d.slice = slice ∧ d.outcome.policyChange?.isSome = true := by
  constructor
  · intro hne
    by_contra hnone
    refine hne ?_
    by_cases hsilent : ∀ d ∈ r.report.decisions, d.slice ≠ slice
    · rw [PolicyTable.inForce, PolicyTable.inForce, (h.silent slice hsilent).2]
    · push Not at hsilent
      obtain ⟨d, hd, rfl⟩ := hsilent
      exact not_not.1 fun hne => hnone ⟨d, hd, rfl, (h.policies d hd).isSome_iff.2 hne⟩
  · rintro ⟨d, hd, rfl, hsome⟩
    exact (h.policies d hd).isSome_iff.1 hsome

/-- The account makes a report true that adds what became of the policies. -/
theorem Account.truthful (h : Account tenants s old table bound r) {t : σ} {new : PolicyTable}
    {attempts : List Attempt} {report : Report}
    (hmasks : ∀ slice, readMask t slice = readMask r.store.store slice)
    (hlists : report.masksWritten = r.report.masksWritten)
    (hdecisions : report.decisions = r.report.decisions)
    (hincidents : report.incidents = attempts.filterMap Attempt.incident?)
    (hpolicies : report.policiesWritten = true ∧ new = table ∧ r.hasSwitched = true ∨
      report.policiesWritten = false ∧ new = old) :
    report.Truthful tenants s t old new attempts := by
  have hlisted : ∀ slice, slice ∈ report.masksWritten ↔ readMask t slice ≠ readMask s slice := by
    intro slice
    rw [hlists, h.listed, hmasks]
  refine
    { ascending := hlists ▸ h.ascending
      listed := fun slice => ?listed
      untouched := fun slice hslice => ?untouched
      masks := fun d hd => ?masks
      written := ?written
      switched := fun hwritten slice => ?switched
      switches := fun hwritten d hd c hc => ?switches
      incidents := hincidents }
  case listed =>
    rw [← hlisted]
    exact ⟨fun hmem => ⟨h.configured slice (hlists ▸ hmem), hmem⟩, And.right⟩
  case untouched =>
    by_contra hne
    have := h.configured slice (hlists ▸ (hlisted slice).2 hne)
    omega
  case masks =>
    rw [hdecisions] at hd
    exact (h.masks d hd).congr rfl (hmasks d.slice)
  case written =>
    rcases hpolicies with ⟨hwritten, rfl, hswitched⟩ | ⟨hnot, rfl⟩
    · obtain ⟨d, hd, hsome⟩ := hasSwitched_iff.1 hswitched
      refine iff_of_true hwritten fun heq => (h.policies d hd).isSome_iff.1 hsome ?_
      rw [heq]
    · exact iff_of_false (by simp [hnot]) (not_not_intro rfl)
  case switched =>
    rcases hpolicies with ⟨-, rfl, -⟩ | ⟨hnot, -⟩
    · rw [hdecisions]
      exact h.switched_iff slice
    · exact Bool.noConfusion (hnot.symm.trans hwritten)
  case switches =>
    rcases hpolicies with ⟨-, rfl, -⟩ | ⟨hnot, -⟩
    · rw [hdecisions] at hd
      obtain ⟨hprevious, hcurrent, -⟩ := (h.policies d hd).switched c hc
      exact ⟨hprevious, hcurrent⟩
    · exact Bool.noConfusion (hnot.symm.trans hwritten)

/-- **The account is still true when the policies have been written or refused.** -/
theorem Account.close (laws : Laws sound fits) (h : Account tenants s old table bound r)
    (hs : sound r.store.store) :
    ∃ new, readPolicies r.close.store = .ok new ∧
      r.close.report.Truthful tenants s r.close.store.store old new r.close.store.attempts := by
  cases hswitched : r.hasSwitched with
  | false =>
      rw [close_of_not_switched hswitched]
      exact ⟨old, h.record, h.truthful (fun _ => rfl) rfl rfl h.incidents (.inr ⟨h.pending, rfl⟩)⟩
  | true =>
      rw [close_of_switched h.copy hswitched]
      cases hwrite : writePolicies r.store table with
      | mk answer k =>
          obtain ⟨hstore, hattempts⟩ := Journal.writePolicies_eq_iff.1 hwrite
          cases answer with
          | ok u =>
              obtain ⟨-, hwritten⟩ := laws.policies_accepted hs hstore
              refine ⟨table, hwritten.policies old h.record h.grown,
                h.truthful hwritten.masks rfl rfl ?_ (.inl ⟨rfl, rfl, hswitched⟩)⟩
              show r.report.incidents = k.attempts.filterMap _
              rw [hattempts, List.filterMap_append, ← h.incidents]
              exact (List.append_nil _).symm
          | error e =>
              obtain ⟨-, hsame⟩ := laws.policies_refused hs hstore
              refine ⟨old, hsame.policies.trans h.record,
                h.truthful hsame.masks rfl rfl ?_ (.inr ⟨h.pending, rfl⟩)⟩
              show r.report.incidents ++ [_] = k.attempts.filterMap _
              rw [hattempts, List.filterMap_append, ← h.incidents]
              rfl

end Round

/-- **The report of a round is true**, whichever of its writes the store refuses.  It has one
decision for each rule.  Listed are exactly the slices whose masks changed; a decision reports a
claim or a release exactly if its mask gained or lost just that unit, and anything else exactly if
its mask is as it was; the policies are reported as written exactly if they changed, and differ then
just where a decision says so; and each refused write is an incident. -/
theorem Heuristic.truthful_evaluate {sound : σ → Prop} {fits : Nat → Prop}
    (laws : Laws sound fits) (h : Heuristic) {s : σ} (hs : sound s) {masks : List Mask}
    (hmasks : readMasks s h.tenants = .ok masks) {old : PolicyTable}
    (hpolicies : readPolicies s = .ok old) (snapshot : Snapshot) :
    let report := (h.evaluate s snapshot).1
    let t := (h.evaluate s snapshot).2.2
    let j := (h.evaluate (Journal.start s) snapshot).2.2
    j.store = t ∧ report.decisions.map Decision.slice = [0, 1] ∧
      ∃ new, readPolicies t = .ok new ∧ report.Truthful h.tenants s t old new j.attempts := by
  intro report t j
  obtain ⟨hreport, hstore⟩ := h.evaluate_journal (Journal.start s) snapshot
  let r : Round (Journal σ) := ⟨Journal.start s, masks, some old, { round := h.round }⟩
  have hround : h.evaluate (Journal.start s) snapshot =
      ((h.play snapshot r).report, { h with round := h.round + 1 }, (h.play snapshot r).store) := by
    have hmasks' : readMasks (Journal.start s) h.tenants = .ok masks := hmasks
    have hpolicies' : readPolicies (Journal.start s) = .ok old := hpolicies
    simp only [evaluate, hmasks', hpolicies']
    rfl
  have hrules : h.rules.Pairwise fun a b => a.slice < b.slice := by simp [rules]
  have hbounds : ∀ rule ∈ h.rules, 0 ≤ rule.slice ∧ rule.slice ≤ wordMax := by
    simp [rules, wordMax]
  have hstart : Round.Account h.tenants s old old 0 r := .start hpolicies masks h.round
  obtain ⟨table, bound, haccount, hstep, hdecisions⟩ :=
    Round.foldl_obey_account laws h.pool snapshot h.rules hrules hbounds ⟨hs, hmasks⟩ hstart
  obtain ⟨new, hnew, htruthful⟩ := haccount.close laws hstep.sound
  -- The round that is watched is this walk, and the one on the store is the same.
  rw [hround] at hreport hstore
  have hjournal : j = (h.play snapshot r).store := congrArg (fun o => o.2.2) hround
  have hreport : report = (h.play snapshot r).report := hreport.symm
  have hstore : t = (h.play snapshot r).store.store := hstore.symm
  rw [hreport, hstore, hjournal]
  refine ⟨rfl, ?_, new, hnew, htruthful⟩
  exact (congrArg (List.map Decision.slice) (Round.decisions_close _)).trans hdecisions

/-- Slice 0 claims its unit, slice 1 releases its own, and both switch their policies. -/
theorem Heuristic.truthful_evaluate_of_busy_cell :
    let s : MemoryStore :=
      { MemoryStore.empty 8 with
        masks := .ofList [(1, ⟨[false, false, false, false, false, true, false, false]⟩)]
        policies := some (.ofList [(1, .waterfilling)]) }
    let snapshot : Snapshot := .ofList
      [(0, ⟨2, .ofList [("dl_buffer [bytes]", 2500.0)]⟩),
        (1, ⟨3, .ofList [("tx_brate downlink [Mbps]", 0.125)]⟩)]
    let h : Heuristic := .ofSettings (.full 8) 2 .standard
    let report := (h.evaluate s snapshot).1
    let t := (h.evaluate s snapshot).2.2
    let j := (h.evaluate (Journal.start s) snapshot).2.2
    let old : PolicyTable := .ofList [(1, .waterfilling)]
    readMasks s 2 = .ok [.unassigned 8, ⟨[false, false, false, false, false, true, false, false]⟩] ∧
      readPolicies s = .ok old ∧ report.masksWritten = [0, 1] ∧ report.policiesWritten = true ∧
      readPolicies t = .ok (.ofList [(0, .waterfilling), (1, .roundRobin)]) ∧
      report.Truthful 2 s t old (.ofList [(0, .waterfilling), (1, .roundRobin)]) j.attempts := by
  intro s snapshot h report t j old
  have hmasks : readMasks s 2 =
      .ok [.unassigned 8, ⟨[false, false, false, false, false, true, false, false]⟩] := by
    decide +kernel
  have hpolicies : readPolicies s = .ok old := by decide +kernel
  have hafter : readPolicies t = .ok (.ofList [(0, .waterfilling), (1, .roundRobin)]) := by
    decide +kernel
  obtain ⟨-, -, new, hnew, htruthful⟩ :=
    h.truthful_evaluate MemoryStore.laws trivial hmasks hpolicies snapshot
  obtain rfl := Except.ok.inj (hafter.symm.trans hnew)
  exact ⟨hmasks, hpolicies, by decide +kernel, by decide +kernel, hafter, htruthful⟩

end RanSlicing
