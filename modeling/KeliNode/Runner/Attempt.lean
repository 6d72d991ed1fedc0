import KeliNode.Lib.Through
import KeliNode.Runner.Changes

/-!
# What an attempt brings to the core

The attempt to deliver user changes over the control socket goes from node to node and from target to target, and
ends at the first one it cannot go on from.  `NodeTook` says of a node that its change was taken, `NodeLacks` that
the core has no inbound for it.  The attempt applies the changes where every node took its own
(`applyUserDeltasToNodes_applied`), and is deferred where it comes to a node that the core lacks an inbound for
(`deltaOutcome_deferred_iff`).
-/

namespace KeliNode

open Lib Std

/-! ## What the core takes -/

section

variable {ν σ : Type} (answers : TickAnswers) (plan : RuntimeBootstrapPlan)

/-- An error the full list is sent after. -/
def asksForFullList (error : Text) : Bool :=
  keliCoreUserDeltaRequiresFullSnapshot error &&
    !(plan.resolved.continueOnError && keliCoreUserDeltaMissingInbound error)

section

variable (entry : RuntimeUserSyncEntry) (change : RuntimeUserDeltaChange) (nodeTag target : Text)
  (world : ControlWorld ν σ)

/-- The call with the change of a node, and the call with its full list. -/
def sendChange : Except Text Unit × ControlWorld ν σ :=
  sendUserDelta (answers.delta target) target
    (keliCoreUserDeltaPayload change (keliCoreDeviceLimitFallbackForNode plan nodeTag)) world

@[inherit_doc sendChange]
def sendFullList : Except Text Unit × ControlWorld ν σ :=
  sendUserDelta (answers.snapshot target) target
    (keliCoreUserFullSnapshotPayload entry (keliCoreDeviceLimitFallbackForNode plan nodeTag)) world

/-- The target took the change, or the full list after an error that asks for it. -/
inductive TargetTook (world' : ControlWorld ν σ) : Prop
  | delta (h : sendChange answers plan change nodeTag target world = (.ok (), world'))
  | snapshot {error : Text} (hdelta : (sendChange answers plan change nodeTag target world).1 = .error error)
      (hasks : asksForFullList plan error = true)
      (h : sendFullList answers plan entry nodeTag target world = (.ok (), world'))

/-- The core answers that it has no such inbound. -/
inductive TargetLacks : Prop
  | delta {error : Text} (h : (sendChange answers plan change nodeTag target world).1 = .error error)
      (hmissing : keliCoreUserDeltaMissingInbound error = true)
  | snapshot {error error' : Text} (hdelta : (sendChange answers plan change nodeTag target world).1 = .error error)
      (hasks : asksForFullList plan error = true)
      (h : (sendFullList answers plan entry nodeTag target world).1 = .error error')
      (hmissing : keliCoreUserDeltaMissingInbound error' = true)

end

variable (corePlan : CorePlan) (sync : RuntimeUserSync)

/-- The change of the node's entry. -/
def changeOf (nodeTag : Text) : Option (RuntimeUserSyncEntry × RuntimeUserDeltaChange) :=
  sync[nodeTag]?.bind fun entry => entry.lastChange.map fun change => (entry, change)

/-- The node has targets in the core plan, and each of them took its change. -/
def NodeTook (nodeTag : Text) (world world' : ControlWorld ν σ) : Prop :=
  ∃ entry change, changeOf sync nodeTag = some (entry, change) ∧ keliCoreUserDeltaTargetTags corePlan nodeTag ≠ [] ∧
    Through (TargetTook answers plan entry change nodeTag) (keliCoreUserDeltaTargetTags corePlan nodeTag) world world'

/-- The core plan has no target for the node, or the core has no inbound for one of them. -/
def NodeLacks (nodeTag : Text) (world : ControlWorld ν σ) : Prop :=
  ∃ entry change, changeOf sync nodeTag = some (entry, change) ∧ (keliCoreUserDeltaTargetTags corePlan nodeTag = [] ∨
    StopsAt (TargetTook answers plan entry change nodeTag) (TargetLacks answers plan entry change nodeTag)
      (keliCoreUserDeltaTargetTags corePlan nodeTag) world)

end

/-! ## The attempt -/

section

variable {ν σ : Type} {answers : TickAnswers} {plan : RuntimeBootstrapPlan}

theorem sendUserDelta_error {refused : Option Text} {tag : Text} {delta : KeliCoreUserDelta}
    {world after : ControlWorld ν σ} {error : Text}
    (h : sendUserDelta refused tag delta world = (.error error, after)) : after = world := by
  unfold sendUserDelta at h
  split at h
  · cases h
    rfl
  · cases h
    rfl
  · split at h
    · cases h
      rfl
    · cases h

section

variable {entry : RuntimeUserSyncEntry} {change : RuntimeUserDeltaChange} {nodeTag target : Text}
  {world world' : ControlWorld ν σ}

/-- The outcome of an attempt that ends with an error. -/
def outcomeOf (plan : RuntimeBootstrapPlan) (error : Text) : RuntimeUserDeltaApplyOutcome :=
  if plan.resolved.continueOnError && keliCoreUserDeltaMissingInbound error then .deferred else .rebuild

theorem outcomeOf_eq_deferred {error : Text} : outcomeOf plan error = .deferred ↔
    plan.resolved.continueOnError = true ∧ keliCoreUserDeltaMissingInbound error = true := by
  unfold outcomeOf
  split
  · rename_i h
    simpa using h
  · rename_i h
    simpa using h

/-- One target, by the answers to its two calls. -/
theorem applyUserDeltaToTarget_eq : applyUserDeltaToTarget answers plan entry change nodeTag target world =
    match sendChange answers plan change nodeTag target world with
    | (.ok (), world) => (none, world)
    | (.error error, _) =>
      if asksForFullList plan error then
        match sendFullList answers plan entry nodeTag target world with
        | (.ok (), world) => (none, world)
        | (.error error, _) => (some (outcomeOf plan error), world)
      else (some (outcomeOf plan error), world) := by
  unfold applyUserDeltaToTarget sendChange sendFullList
  simp only
  cases hdelta : sendUserDelta (answers.delta target) target
      (keliCoreUserDeltaPayload change (keliCoreDeviceLimitFallbackForNode plan nodeTag)) world with
  | mk outcome after =>
    cases outcome with
    | ok _ => rfl
    | error error =>
      cases sendUserDelta_error hdelta
      have hends : (decide (outcomeOf plan error = .deferred) || !keliCoreUserDeltaRequiresFullSnapshot error) =
          !asksForFullList plan error := by
        unfold outcomeOf asksForFullList
        cases plan.resolved.continueOnError && keliCoreUserDeltaMissingInbound error <;>
          cases keliCoreUserDeltaRequiresFullSnapshot error <;> rfl
      unfold outcomeOf at hends ⊢
      simp only [hends]
      cases asksForFullList plan error with
      | false => rfl
      | true =>
        cases hlist : sendUserDelta (answers.snapshot target) target
            (keliCoreUserFullSnapshotPayload entry (keliCoreDeviceLimitFallbackForNode plan nodeTag)) world with
        | mk outcome after =>
          cases outcome with
          | ok _ => rfl
          | error error' =>
            cases sendUserDelta_error hlist
            rfl

/-- **Invariant rule**: what holds after either call, and before them, holds after the target. -/
theorem applyUserDeltaToTarget_invariant {Inv : ControlWorld ν σ → Prop}
    (hchange : Inv (sendChange answers plan change nodeTag target world).2)
    (hlist : Inv (sendFullList answers plan entry nodeTag target world).2) (h : Inv world) :
    Inv (applyUserDeltaToTarget answers plan entry change nodeTag target world).2 := by
  rw [applyUserDeltaToTarget_eq]
  split
  · rename_i hsend
    rw [hsend] at hchange
    exact hchange
  · split
    · split
      · rename_i hsend
        rw [hsend] at hlist
        exact hlist
      · exact h
    · exact h

theorem applyUserDeltaToTarget_eq_none : applyUserDeltaToTarget answers plan entry change nodeTag target world =
    (none, world') ↔ TargetTook answers plan entry change nodeTag target world world' := by
  rw [applyUserDeltaToTarget_eq]
  constructor
  · intro h
    cases hdelta : sendChange answers plan change nodeTag target world with
    | mk outcome after =>
      rw [hdelta] at h
      cases outcome with
      | ok _ =>
        cases h
        exact .delta hdelta
      | error error =>
        simp only at h
        split at h
        · rename_i hasks
          split at h
          · rename_i hlist
            cases h
            exact .snapshot (by rw [hdelta]) hasks hlist
          · cases h
        · cases h
  · intro h
    cases h with
    | delta h => rw [h]
    | @snapshot error hdelta hasks h =>
      obtain ⟨after, hsend⟩ : ∃ after, sendChange answers plan change nodeTag target world = (.error error, after) :=
        ⟨_, Prod.ext hdelta rfl⟩
      rw [hsend]
      simp only [hasks, if_true, h]

theorem applyUserDeltaToTarget_deferred :
    (applyUserDeltaToTarget answers plan entry change nodeTag target world).1 = some .deferred ↔
      plan.resolved.continueOnError = true ∧ TargetLacks answers plan entry change nodeTag target world := by
  rw [applyUserDeltaToTarget_eq]
  constructor
  · intro h
    cases hdelta : sendChange answers plan change nodeTag target world with
    | mk outcome after =>
      rw [hdelta] at h
      cases outcome with
      | ok _ => cases h
      | error error =>
        have hfirst : (sendChange answers plan change nodeTag target world).1 = .error error := by rw [hdelta]
        simp only at h
        split at h
        · rename_i hasks
          cases hlist : sendFullList answers plan entry nodeTag target world with
          | mk outcome after =>
            rw [hlist] at h
            cases outcome with
            | ok _ => cases h
            | error error' =>
              obtain ⟨hcontinue, hmissing⟩ := outcomeOf_eq_deferred.1 (Option.some.inj h)
              exact ⟨hcontinue, .snapshot hfirst hasks (by rw [hlist]) hmissing⟩
        · obtain ⟨hcontinue, hmissing⟩ := outcomeOf_eq_deferred.1 (Option.some.inj h)
          exact ⟨hcontinue, .delta hfirst hmissing⟩
  · rintro ⟨hcontinue, h⟩
    cases h with
    | @delta error h hmissing =>
      obtain ⟨after, hsend⟩ : ∃ after, sendChange answers plan change nodeTag target world = (.error error, after) :=
        ⟨_, Prod.ext h rfl⟩
      have hnot : asksForFullList plan error = false := by simp [asksForFullList, hcontinue, hmissing]
      rw [hsend]
      simp only [hnot]
      exact congrArg some (outcomeOf_eq_deferred.2 ⟨hcontinue, hmissing⟩)
    | @snapshot error error' hdelta hasks h hmissing =>
      obtain ⟨after, hsend⟩ : ∃ after, sendChange answers plan change nodeTag target world = (.error error, after) :=
        ⟨_, Prod.ext hdelta rfl⟩
      obtain ⟨after, hlist⟩ : ∃ after, sendFullList answers plan entry nodeTag target world = (.error error', after) :=
        ⟨_, Prod.ext h rfl⟩
      rw [hsend]
      simp only [hasks, if_true, hlist]
      exact congrArg some (outcomeOf_eq_deferred.2 ⟨hcontinue, hmissing⟩)

/-- The loop over the targets is a loop that a target may end. -/
theorem applyUserDeltaToTargets_eq {targets : List Text} :
    applyUserDeltaToTargets answers plan entry change nodeTag targets world =
      loopUntil (applyUserDeltaToTarget answers plan entry change nodeTag) targets world := by
  induction targets generalizing world with
  | nil => rfl
  | cons target targets ih =>
    rw [applyUserDeltaToTargets, loopUntil]
    cases applyUserDeltaToTarget answers plan entry change nodeTag target world with
    | mk outcome after =>
      cases outcome with
      | none => exact ih
      | some outcome => rfl

theorem applyUserDeltaToTarget_not_applied :
    (applyUserDeltaToTarget answers plan entry change nodeTag target world).1 = some .applied ↔ False := by
  have hnot : ∀ error, outcomeOf plan error ≠ .applied := by
    intro error h
    unfold outcomeOf at h
    split at h <;> cases h
  rw [applyUserDeltaToTarget_eq, iff_false]
  intro h
  split at h
  · cases h
  · split at h
    · split at h
      · cases h
      · exact hnot _ (Option.some.inj h)
    · exact hnot _ (Option.some.inj h)

end

variable {corePlan : CorePlan} {sync : RuntimeUserSync} {world world' : ControlWorld ν σ}

variable (answers plan corePlan sync) in
/-- One changed node of the attempt. -/
def applyUserDeltasToNode (nodeTag : Text) (world : ControlWorld ν σ) :
    Option RuntimeUserDeltaApplyOutcome × ControlWorld ν σ :=
  match changeOf sync nodeTag, keliCoreUserDeltaTargetTags corePlan nodeTag with
  | none, _ => (some .rebuild, world)
  | some _, [] => (some (if plan.resolved.continueOnError then .deferred else .rebuild), world)
  | some (entry, change), targets => applyUserDeltaToTargets answers plan entry change nodeTag targets world

/-- **Invariant rule**: what every target of a node keeps, the node keeps. -/
theorem applyUserDeltasToNode_invariant {Inv : ControlWorld ν σ → Prop} {nodeTag : Text}
    (htarget : ∀ entry change, changeOf sync nodeTag = some (entry, change) →
      ∀ target ∈ keliCoreUserDeltaTargetTags corePlan nodeTag, ∀ mid, Inv mid →
        Inv (applyUserDeltaToTarget answers plan entry change nodeTag target mid).2) (h : Inv world) :
    Inv (applyUserDeltasToNode answers plan corePlan sync nodeTag world).2 := by
  unfold applyUserDeltasToNode
  split
  · exact h
  · exact h
  · rename_i hchange _
    rw [applyUserDeltaToTargets_eq]
    exact loopUntil_invariant (htarget _ _ hchange) h

/-- The loop over the changed nodes is a loop that a node may end. -/
theorem applyUserDeltasToNodes_eq {tags : List Text} :
    applyUserDeltasToNodes answers plan corePlan sync tags world =
      ((loopUntil (applyUserDeltasToNode answers plan corePlan sync) tags world).1.getD .applied,
        (loopUntil (applyUserDeltasToNode answers plan corePlan sync) tags world).2) := by
  induction tags generalizing world with
  | nil => rfl
  | cons tag tags ih =>
    rw [applyUserDeltasToNodes, loopUntil, applyUserDeltasToNode, changeOf]
    cases sync[tag]?.bind fun entry => entry.lastChange.map fun change => (entry, change) with
    | none => rfl
    | some found =>
      obtain ⟨entry, change⟩ := found
      cases keliCoreUserDeltaTargetTags corePlan tag with
      | nil => rfl
      | cons target targets =>
        simp only
        cases applyUserDeltaToTargets answers plan entry change tag (target :: targets) world with
        | mk outcome after =>
          cases outcome with
          | none => exact ih
          | some outcome => rfl

theorem applyUserDeltasToNode_eq_none {tag : Text} :
    applyUserDeltasToNode answers plan corePlan sync tag world = (none, world') ↔
      NodeTook answers plan corePlan sync tag world world' := by
  unfold applyUserDeltasToNode NodeTook
  cases changeOf sync tag with
  | none => simp
  | some found =>
    obtain ⟨entry, change⟩ := found
    cases htargets : keliCoreUserDeltaTargetTags corePlan tag with
    | nil => simp
    | cons target targets =>
      simp only [applyUserDeltaToTargets_eq,
        loopUntil_eq_none fun _ _ _ => applyUserDeltaToTarget_eq_none]
      refine ⟨fun h => ⟨entry, change, rfl, List.cons_ne_nil _ _, h⟩, ?_⟩
      rintro ⟨entry', change', heq, -, h⟩
      cases heq
      exact h

theorem applyUserDeltasToNode_deferred {tag : Text} :
    (applyUserDeltasToNode answers plan corePlan sync tag world).1 = some .deferred ↔
      plan.resolved.continueOnError = true ∧ NodeLacks answers plan corePlan sync tag world := by
  unfold applyUserDeltasToNode NodeLacks
  cases changeOf sync tag with
  | none => simp
  | some found =>
    obtain ⟨entry, change⟩ := found
    cases htargets : keliCoreUserDeltaTargetTags corePlan tag with
    | nil =>
      cases plan.resolved.continueOnError with
      | false => simp
      | true => simp
    | cons target targets =>
      simp only [applyUserDeltaToTargets_eq]
      rw [loopUntil_eq_some (fun _ _ _ => applyUserDeltaToTarget_eq_none)
        (fun _ _ => applyUserDeltaToTarget_deferred), stopsAt_and_left]
      refine and_congr_right fun _ => ⟨fun h => ⟨entry, change, rfl, .inr h⟩, ?_⟩
      rintro ⟨entry', change', heq, hnil | h⟩
      · cases hnil
      · cases heq
        exact h

theorem applyUserDeltasToNode_not_applied {tag : Text} :
    (applyUserDeltasToNode answers plan corePlan sync tag world).1 = some .applied ↔ False := by
  rw [iff_false]
  intro h
  unfold applyUserDeltasToNode at h
  split at h
  · cases h
  · split at h <;> cases h
  · rw [applyUserDeltaToTargets_eq, loopUntil_eq_some
      (fun _ _ _ => applyUserDeltaToTarget_eq_none)
      (fun _ _ => applyUserDeltaToTarget_not_applied)] at h
    obtain ⟨-, -, -, -, -, -, hfalse⟩ := h
    exact hfalse

/-- **The attempt applies** the changes where every node took its own. -/
theorem applyUserDeltasToNodes_applied {tags : List Text} :
    applyUserDeltasToNodes answers plan corePlan sync tags world = (.applied, world') ↔
      Through (NodeTook answers plan corePlan sync) tags world world' := by
  rw [applyUserDeltasToNodes_eq,
    ← loopUntil_eq_none fun _ _ _ => applyUserDeltasToNode_eq_none]
  constructor
  · intro h
    rw [Prod.mk.injEq] at h
    cases hrun : (loopUntil (applyUserDeltasToNode answers plan corePlan sync) tags world).1 with
    | none => exact Prod.ext hrun h.2
    | some outcome =>
      rw [hrun, Option.getD_some] at h
      rw [h.1, loopUntil_eq_some
        (fun _ _ _ => applyUserDeltasToNode_eq_none)
        (fun _ _ => applyUserDeltasToNode_not_applied)] at hrun
      obtain ⟨-, -, -, -, -, -, hfalse⟩ := hrun
      exact hfalse.elim
  · intro h
    rw [h]
    rfl

/-- **The attempt is deferred** at a node the core lacks an inbound for. -/
theorem applyUserDeltasToNodes_deferred {tags : List Text} :
    (applyUserDeltasToNodes answers plan corePlan sync tags world).1 = .deferred ↔
      plan.resolved.continueOnError = true ∧
        StopsAt (NodeTook answers plan corePlan sync) (NodeLacks answers plan corePlan sync) tags world := by
  rw [← stopsAt_and_left, ← loopUntil_eq_some
    (fun _ _ _ => applyUserDeltasToNode_eq_none)
    (fun _ _ => applyUserDeltasToNode_deferred), applyUserDeltasToNodes_eq]
  cases (loopUntil (applyUserDeltasToNode answers plan corePlan sync) tags world).1 with
  | none => simp
  | some outcome => simp

end

/-! ## Deferred attempts -/

section

variable {ν σ : Type} {answers : TickAnswers} {loop : RuntimeLoop ν σ} {tags : List Text}

variable (answers loop tags) in
/-- The attempt is made, and a changed node comes up that the core lacks an inbound for while those before it took
their changes. -/
structure Defers : Prop where
  running : answers.running = none
  tries : triesDeltas answers loop tags = true
  continueOnError : loop.plan.resolved.continueOnError = true
  lacks : ∃ corePlan, loop.plan.corePlan = some corePlan ∧
    StopsAt (NodeTook answers loop.plan corePlan loop.userSync) (NodeLacks answers loop.plan corePlan loop.userSync) tags
      loop.world

theorem triesDeltas_iff : triesDeltas answers loop tags = true ↔ loop.world.core.isSome = true ∧
    loop.plan.corePlan.isSome = true ∧ tags.all (hasDelta loop.userSync) = true ∧ answers.deltaClient = none := by
  simp [triesDeltas, and_assoc]

/-- The attempt that is made. -/
theorem deltaOutcome_of_tries {corePlan : CorePlan} (hplan : loop.plan.corePlan = some corePlan)
    (hrunning : answers.running = none) (htries : triesDeltas answers loop tags = true) :
    deltaOutcome answers tags loop =
      .ok (applyUserDeltasToNodes answers loop.plan corePlan loop.userSync tags loop.world) := by
  obtain ⟨hcore, -, hall, hclient⟩ := triesDeltas_iff.1 htries
  simp [deltaOutcome, hplan, coreStatus, hrunning, hcore, tryApplyKeliCoreRsUserDeltas, hall, hclient]

/-- Where no attempt is made, there is a rebuild. -/
theorem deltaOutcome_untried {outcome : RuntimeUserDeltaApplyOutcome} {world : ControlWorld ν σ}
    (hnot : ¬ (answers.running = none ∧ triesDeltas answers loop tags = true))
    (h : deltaOutcome answers tags loop = .ok (outcome, world)) : outcome = .rebuild ∧ world = loop.world := by
  unfold deltaOutcome tryApplyKeliCoreRsUserDeltas at h
  cases hplan : loop.plan.corePlan with
  | none =>
    simp only [hplan] at h
    cases h
    exact ⟨rfl, rfl⟩
  | some corePlan =>
    cases hstatus : coreStatus answers.running loop.world with
    | error error => simp [hplan, hstatus] at h
    | ok running =>
      cases running with
      | false =>
        simp only [hplan, hstatus] at h
        cases h
        exact ⟨rfl, rfl⟩
      | true =>
        obtain ⟨hrunning, hcore⟩ := isSome_of_coreStatus hstatus
        simp only [hplan, hstatus] at h
        split at h
        · cases h
          exact ⟨rfl, rfl⟩
        · rename_i htries
          simp only [Bool.or_eq_true, not_or, Bool.not_eq_true', Bool.not_eq_false, Bool.not_eq_true,
            Option.isSome_eq_false_iff, Option.isNone_iff_eq_none] at htries
          exact absurd ⟨hrunning, triesDeltas_iff.2 ⟨hcore, by rw [hplan]; rfl, htries⟩⟩ hnot

theorem tries_of_deltaOutcome {outcome : RuntimeUserDeltaApplyOutcome} {world : ControlWorld ν σ}
    (h : deltaOutcome answers tags loop = .ok (outcome, world)) (hne : outcome ≠ .rebuild) :
    answers.running = none ∧ triesDeltas answers loop tags = true :=
  by_contra fun hnot => hne (deltaOutcome_untried hnot h).1

/-- **Invariant rule**: what every node of an attempt keeps, the attempt keeps. -/
theorem deltaOutcome_invariant {Inv : ControlWorld ν σ → Prop}
    (hnode : ∀ corePlan, loop.plan.corePlan = some corePlan → triesDeltas answers loop tags = true → ∀ tag ∈ tags,
      ∀ mid, Inv mid → Inv (applyUserDeltasToNode answers loop.plan corePlan loop.userSync tag mid).2)
    (hstart : Inv loop.world) {outcome : RuntimeUserDeltaApplyOutcome} {world : ControlWorld ν σ}
    (h : deltaOutcome answers tags loop = .ok (outcome, world)) : Inv world := by
  by_cases hmade : answers.running = none ∧ triesDeltas answers loop tags = true
  · obtain ⟨corePlan, hplan⟩ := Option.isSome_iff_exists.1 (triesDeltas_iff.1 hmade.2).2.1
    rw [deltaOutcome_of_tries hplan hmade.1 hmade.2, applyUserDeltasToNodes_eq] at h
    cases h
    exact loopUntil_invariant (hnode corePlan hplan hmade.2) hstart
  · rw [(deltaOutcome_untried hmade h).2]
    exact hstart

/-- The attempt delivers all changes. -/
theorem deltaOutcome_applied_iff {world : ControlWorld ν σ} : deltaOutcome answers tags loop = .ok (.applied, world) ↔
    (answers.running = none ∧ triesDeltas answers loop tags = true) ∧ ∃ corePlan, loop.plan.corePlan = some corePlan ∧
      Through (NodeTook answers loop.plan corePlan loop.userSync) tags loop.world world := by
  constructor
  · intro h
    obtain ⟨hrunning, htries⟩ := tries_of_deltaOutcome h (by simp)
    obtain ⟨corePlan, hplan⟩ := Option.isSome_iff_exists.1 (triesDeltas_iff.1 htries).2.1
    rw [deltaOutcome_of_tries hplan hrunning htries] at h
    exact ⟨⟨hrunning, htries⟩, corePlan, hplan, applyUserDeltasToNodes_applied.1 (Except.ok.inj h)⟩
  · rintro ⟨⟨hrunning, htries⟩, corePlan, hplan, hthrough⟩
    rw [deltaOutcome_of_tries hplan hrunning htries, applyUserDeltasToNodes_applied.2 hthrough]

theorem deltaOutcome_deferred_iff :
    (∃ world, deltaOutcome answers tags loop = .ok (.deferred, world)) ↔ Defers answers loop tags := by
  constructor
  · rintro ⟨world, h⟩
    obtain ⟨hrunning, htries⟩ := tries_of_deltaOutcome h (by simp)
    obtain ⟨corePlan, hplan⟩ := Option.isSome_iff_exists.1 (triesDeltas_iff.1 htries).2.1
    rw [deltaOutcome_of_tries hplan hrunning htries] at h
    obtain ⟨hcontinue, hlacks⟩ := applyUserDeltasToNodes_deferred.1 (congrArg Prod.fst (Except.ok.inj h))
    exact ⟨hrunning, htries, hcontinue, corePlan, hplan, hlacks⟩
  · rintro ⟨hrunning, htries, hcontinue, corePlan, hplan, hlacks⟩
    rw [deltaOutcome_of_tries hplan hrunning htries]
    exact ⟨_, congrArg Except.ok (Prod.ext (applyUserDeltasToNodes_deferred.2 ⟨hcontinue, hlacks⟩) rfl)⟩

end

end KeliNode
