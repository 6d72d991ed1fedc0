import KeliNode.Runner.Pending
import KeliNode.Runner.Tick
import Mathlib.Data.List.Nodup

/-!
# Deltas and snapshots on a running core

What the two tag loops of a tick leave in a core that runs the inbounds of the plan: `deltaLoop_spec` for
`try_apply_keli_core_rs_user_deltas`, `baselineLoop_spec` for `try_establish_keli_core_rs_revision_baseline`.
A tag the loop has passed is settled: the core holds the users of its sync entry.  The delta loop stops at the
first tag it cannot deliver, and `Delivery` says which tags it had passed by then.
-/

namespace KeliNode

open Lib Std

/-! ## Settled tags -/

/-- The users of an entry, as the core is to hold them. -/
def expectedUsers (plan : RuntimeBootstrapPlan) (tag : Text) (entry : RuntimeUserSyncEntry) : CoreUsers :=
  coreUsersOf (entry.state.users.map (keliCoreUserDeltaUser (keliCoreDeviceLimitFallbackForNode plan tag)))

theorem expectedUsers_get (plan : RuntimeBootstrapPlan) (tag : Text) (entry : RuntimeUserSyncEntry) (uuid : Text) :
    (expectedUsers plan tag entry)[uuid]? =
      (userAt entry.state.users uuid).map (keliCoreUserDeltaUser (keliCoreDeviceLimitFallbackForNode plan tag)) :=
  coreUsersOf_map_get (fun _ => rfl) _ _

section

variable {ν σ : Type}

/-- The core's inbound of the tag, where it runs one, holds the users of the tag's entry. -/
def Settled (plan : RuntimeBootstrapPlan) (sync : RuntimeUserSync) (core : RunningCore ν) (tag : Text) : Prop :=
  ∀ inbound, core.inbounds[tag]? = some inbound →
    ∃ entry, sync[tag]? = some entry ∧ inbound.users = expectedUsers plan tag entry

/-- The change of an entry leads from what the core holds to the users of the entry. -/
def Deliverable (plan : RuntimeBootstrapPlan) (core : RunningCore ν) (tag : Text) (entry : RuntimeUserSyncEntry)
    (change : RuntimeUserDeltaChange) : Prop :=
  ∀ inbound, core.inbounds[tag]? = some inbound →
    ((inbound.users.drop (change.diff.deleted.map (·.uuid))).put (change.diff.added.map
        (keliCoreUserDeltaUser (keliCoreDeviceLimitFallbackForNode plan tag)))).put
      (change.diff.updated.map (keliCoreUserDeltaUser (keliCoreDeviceLimitFallbackForNode plan tag))) =
      expectedUsers plan tag entry

def RunningCore.set (core : RunningCore ν) (tag : Text) (inbound : CoreInbound) : RunningCore ν :=
  { core with inbounds := core.inbounds.insert tag inbound }

@[simp] theorem RunningCore.set_get_self (core : RunningCore ν) (tag : Text) (inbound : CoreInbound) :
    (core.set tag inbound).inbounds[tag]? = some inbound := by
  simp [RunningCore.set]

theorem RunningCore.set_get_ne (core : RunningCore ν) {tag other : Text} (hne : other ≠ tag) (inbound : CoreInbound) :
    (core.set tag inbound).inbounds[other]? = core.inbounds[other]? := by
  simp [RunningCore.set, ExtTreeMap.getElem?_insert, Ne.symm hne]

theorem RunningCore.mem_set {core : RunningCore ν} {tag : Text} (hmem : tag ∈ core.inbounds) (inbound : CoreInbound)
    (other : Text) : other ∈ (core.set tag inbound).inbounds ↔ other ∈ core.inbounds := by
  simp only [RunningCore.set, ExtTreeMap.mem_insert, Std.compare_eq_iff_eq]
  exact ⟨fun h => h.elim (fun heq => heq ▸ hmem) id, .inr⟩

theorem settled_congr {plan : RuntimeBootstrapPlan} {sync : RuntimeUserSync} {core core' : RunningCore ν} {tag : Text}
    (hsame : core'.inbounds[tag]? = core.inbounds[tag]?) (h : Settled plan sync core tag) :
    Settled plan sync core' tag := by
  intro inbound hinbound
  rw [hsame] at hinbound
  exact h inbound hinbound

theorem settled_of_not_mem {plan : RuntimeBootstrapPlan} {sync : RuntimeUserSync} {core : RunningCore ν} {tag : Text}
    (h : tag ∉ core.inbounds) : Settled plan sync core tag := by
  intro inbound hinbound
  exact absurd (ExtTreeMap.mem_iff_isSome_getElem?.2 (by rw [hinbound]; rfl)) h

theorem settled_set {plan : RuntimeBootstrapPlan} {sync : RuntimeUserSync} (core : RunningCore ν) {tag : Text}
    {entry : RuntimeUserSyncEntry} (hentry : sync[tag]? = some entry) {inbound : CoreInbound}
    (husers : inbound.users = expectedUsers plan tag entry) : Settled plan sync (core.set tag inbound) tag := by
  intro found hfound
  rw [RunningCore.set_get_self, Option.some.injEq] at hfound
  subst hfound
  exact ⟨entry, hentry, husers⟩

/-! ## Targets -/

/-- The plan has an inbound for the tag. -/
def plansTag (corePlan : CorePlan) (tag : Text) : Prop := tag ∈ corePlan.inbounds.map (·.tag)

instance (corePlan : CorePlan) (tag : Text) : Decidable (plansTag corePlan tag) :=
  inferInstanceAs (Decidable (_ ∈ _))

/-- The tag of a node stands for one inbound at most, its own. -/
structure TagOk (corePlan : CorePlan) (tag : Text) : Prop where
  nodup : (corePlan.inbounds.map (·.tag)).Nodup
  apart : ∀ inbound ∈ corePlan.inbounds, (tag ++ ("|port:" : Text)).isPrefixOf inbound.tag = false

theorem targetTags_eq {corePlan : CorePlan} {tag : Text} (h : TagOk corePlan tag) :
    keliCoreUserDeltaTargetTags corePlan tag = if plansTag corePlan tag then [tag] else [] := by
  unfold keliCoreUserDeltaTargetTags
  by_cases hmem : plansTag corePlan tag
  · have hone : (corePlan.inbounds.map (·.tag)).filter (· = tag) = [tag] := by
      rw [List.filter_eq, List.count_eq_one_of_mem h.nodup hmem]
      rfl
    rw [if_pos hmem]
    simp only [hone]
    rfl
  · have hnone : (corePlan.inbounds.map (·.tag)).filter (· = tag) = [] := by
      rw [List.filter_eq, List.count_eq_zero_of_not_mem hmem]
      rfl
    have hport : (corePlan.inbounds.map (·.tag)).filter
        (fun other => other ≠ tag && (tag ++ ("|port:" : Text)).isPrefixOf other) = [] := by
      rw [List.filter_eq_nil_iff]
      intro other hother
      obtain ⟨inbound, hinbound, rfl⟩ := List.mem_map.1 hother
      rw [h.apart inbound hinbound, Bool.and_false]
      exact Bool.false_ne_true
    rw [if_neg hmem]
    simp only [hnone, hport]
    rfl

/-! ## One call -/

/-- One call to a core that runs the tag: refused, answered with a mismatch, or taken. -/
theorem sendUserDelta_cases {world : ControlWorld ν σ} {core : RunningCore ν} {tag : Text} {inbound : CoreInbound}
    (hcore : world.core = some core) (hinbound : core.inbounds[tag]? = some inbound) (refused : Option Text)
    (delta : KeliCoreUserDelta) :
    (∃ error, refused = some error ∧ sendUserDelta refused tag delta world = (.error error, world)) ∨
      (refused = none ∧ ∃ error, inbound.applyDelta delta = .error error ∧
        sendUserDelta refused tag delta world = (.error error, world)) ∨
      (refused = none ∧ ∃ after, inbound.applyDelta delta = .ok after ∧
        sendUserDelta refused tag delta world = (.ok (), { world with core := some (core.set tag after) })) := by
  cases refused with
  | some error => exact .inl ⟨error, rfl, rfl⟩
  | none =>
    cases hdelta : inbound.applyDelta delta with
    | error error =>
      refine .inr (.inl ⟨rfl, error, rfl, ?_⟩)
      simp [sendUserDelta, hcore, RunningCore.applyUserDelta, hinbound, hdelta, Except.map]
    | ok after =>
      refine .inr (.inr ⟨rfl, after, rfl, ?_⟩)
      simp [sendUserDelta, hcore, RunningCore.applyUserDelta, hinbound, hdelta, Except.map, RunningCore.set]

theorem applyDelta_incremental_error {inbound : CoreInbound} {change : RuntimeUserDeltaChange} {fallback : Nat}
    {error : Text} (h : inbound.applyDelta (keliCoreUserDeltaPayload change fallback) = .error error) :
    error = "revision mismatch" := by
  simp only [keliCoreUserDeltaPayload, CoreInbound.applyDelta] at h
  split at h
  · cases h
  · exact (Except.error.inj h).symm

theorem applyDelta_incremental_ok {inbound after : CoreInbound} {change : RuntimeUserDeltaChange} {fallback : Nat}
    (h : inbound.applyDelta (keliCoreUserDeltaPayload change fallback) = .ok after) :
    after.users = ((inbound.users.drop (change.diff.deleted.map (·.uuid))).put
      (change.diff.added.map (keliCoreUserDeltaUser fallback))).put
      (change.diff.updated.map (keliCoreUserDeltaUser fallback)) := by
  simp only [keliCoreUserDeltaPayload, CoreInbound.applyDelta] at h
  split at h
  · cases h
    rfl
  · cases h

variable {answers : TickAnswers} {plan : RuntimeBootstrapPlan} {sync : RuntimeUserSync}

/-- The errors the core is made to answer with leave the tag's inbound alone: none speaks of a missing inbound
where that would defer the change. -/
def RefusalsOk (answers : TickAnswers) (plan : RuntimeBootstrapPlan) (tag : Text) : Prop :=
  plan.resolved.continueOnError = true →
    (answers.delta tag).all (!keliCoreUserDeltaMissingInbound ·) = true ∧
      (answers.snapshot tag).all (!keliCoreUserDeltaMissingInbound ·) = true

instance (answers : TickAnswers) (plan : RuntimeBootstrapPlan) (tag : Text) : Decidable (RefusalsOk answers plan tag) :=
  inferInstanceAs (Decidable (_ → _ ∧ _))

/-- Some call for the tag is refused. -/
def refuses (answers : TickAnswers) (tag : Text) : Bool := (answers.delta tag).isSome || (answers.snapshot tag).isSome

/-- An error that may come is not deferred. -/
theorem not_deferred {tag : Text} (hrefusals : RefusalsOk answers plan tag) (error : Text)
    (herror : answers.delta tag = some error ∨ answers.snapshot tag = some error) :
    (plan.resolved.continueOnError && keliCoreUserDeltaMissingInbound error) = false := by
  cases hcontinue : plan.resolved.continueOnError with
  | false => rfl
  | true =>
    obtain ⟨hdelta, hsnapshot⟩ := hrefusals hcontinue
    rcases herror with h | h
    · simpa [h] using hdelta
    · simpa [h] using hsnapshot

/-- The full list, which follows an error that asks for it. -/
theorem sendSnapshot_cases {entry : RuntimeUserSyncEntry} {tag : Text} {world : ControlWorld ν σ} {core : RunningCore ν}
    {inbound : CoreInbound} (hcore : world.core = some core) (hinbound : core.inbounds[tag]? = some inbound)
    (hrefusals : RefusalsOk answers plan tag) {snapshot : Option RuntimeUserDeltaApplyOutcome × ControlWorld ν σ}
    (hsnapshot : (match sendUserDelta (answers.snapshot tag) tag
        (keliCoreUserFullSnapshotPayload entry (keliCoreDeviceLimitFallbackForNode plan tag)) world with
      | (.ok (), world) => ((none : Option RuntimeUserDeltaApplyOutcome), world)
      | (.error error, world) => (some (if plan.resolved.continueOnError && keliCoreUserDeltaMissingInbound error then
          .deferred else .rebuild), world)) = snapshot) :
    snapshot = (none, { world with core := some (core.set tag
        { revision := entry.state.revision, users := expectedUsers plan tag entry }) }) ∨
      (refuses answers tag = true ∧ snapshot = (some .rebuild, world)) := by
  rcases sendUserDelta_cases hcore hinbound (answers.snapshot tag)
    (keliCoreUserFullSnapshotPayload entry (keliCoreDeviceLimitFallbackForNode plan tag)) with
    ⟨error, hrefused, hsend⟩ | ⟨-, error, herror, hsend⟩ | ⟨-, after, hafter, hsend⟩
  · refine .inr ⟨by simp [refuses, hrefused], ?_⟩
    rw [← hsnapshot]
    simp only [hsend, not_deferred hrefusals error (.inr hrefused), Bool.false_eq_true, if_false]
  · cases herror
  · cases hafter
    refine .inl ?_
    rw [← hsnapshot, hsend]
    rfl

/-- **One target**: it is settled, or a refused call asks for a rebuild. -/
theorem applyUserDeltaToTarget_cases {entry : RuntimeUserSyncEntry} {change : RuntimeUserDeltaChange} {tag : Text}
    {world : ControlWorld ν σ} {core : RunningCore ν} {inbound : CoreInbound} (hcore : world.core = some core)
    (hinbound : core.inbounds[tag]? = some inbound) (hdeliverable : Deliverable plan core tag entry change)
    (hrefusals : RefusalsOk answers plan tag) :
    (∃ after, after.users = expectedUsers plan tag entry ∧
        applyUserDeltaToTarget answers plan entry change tag tag world =
          (none, { world with core := some (core.set tag after) })) ∨
      (refuses answers tag = true ∧
        applyUserDeltaToTarget answers plan entry change tag tag world = (some .rebuild, world)) := by
  unfold applyUserDeltaToTarget
  simp only
  rcases sendUserDelta_cases hcore hinbound (answers.delta tag)
    (keliCoreUserDeltaPayload change (keliCoreDeviceLimitFallbackForNode plan tag)) with
    ⟨error, hrefused, hsend⟩ | ⟨-, error, herror, hsend⟩ | ⟨-, after, hafter, hsend⟩
  · simp only [hsend, not_deferred hrefusals error (.inl hrefused), Bool.false_eq_true, if_false]
    split
    · exact .inr ⟨by simp [refuses, hrefused], rfl⟩
    · rcases sendSnapshot_cases hcore hinbound hrefusals rfl with hsent | ⟨hrefuses, hsent⟩
      · exact .inl ⟨_, rfl, hsent⟩
      · exact .inr ⟨hrefuses, hsent⟩
  · have hmismatch := applyDelta_incremental_error herror
    subst hmismatch
    have hnotMissing : keliCoreUserDeltaMissingInbound ("revision mismatch" : Text) = false := by decide
    have hfull : keliCoreUserDeltaRequiresFullSnapshot ("revision mismatch" : Text) = true := by decide
    simp only [hsend, hnotMissing, hfull, Bool.and_false, Bool.false_eq_true, if_false]
    rcases sendSnapshot_cases hcore hinbound hrefusals rfl with hsent | ⟨hrefuses, hsent⟩
    · exact .inl ⟨_, rfl, hsent⟩
    · exact .inr ⟨hrefuses, hsent⟩
  · simp only [hsend]
    exact .inl ⟨after, (applyDelta_incremental_ok hafter).trans (hdeliverable inbound hinbound), rfl⟩

/-! ## The loops -/

/-- The core after a loop over tags: no inbound came or went, and only those of the tags changed. -/
structure OnlyTags (tags : List Text) (core core' : RunningCore ν) : Prop where
  keys : ∀ tag, tag ∈ core'.inbounds ↔ tag ∈ core.inbounds
  others : ∀ tag, tag ∉ tags → core'.inbounds[tag]? = core.inbounds[tag]?

theorem OnlyTags.refl (tags : List Text) (core : RunningCore ν) : OnlyTags tags core core :=
  ⟨fun _ => Iff.rfl, fun _ _ => rfl⟩

theorem OnlyTags.cons {tag : Text} {tags : List Text} {core core' : RunningCore ν} {inbound : CoreInbound}
    (hmem : tag ∈ core.inbounds) (h : OnlyTags tags (core.set tag inbound) core') :
    OnlyTags (tag :: tags) core core' := by
  refine ⟨fun other => (h.keys other).trans (RunningCore.mem_set hmem inbound other), fun other hother => ?_⟩
  rw [List.mem_cons, not_or] at hother
  rw [h.others other hother.2, core.set_get_ne hother.1]

/-- How the delta loop ended, and the tags it had passed. -/
structure Delivery (answers : TickAnswers) (plan : RuntimeBootstrapPlan) (corePlan : CorePlan) (sync : RuntimeUserSync)
    (tags : List Text) (core core' : RunningCore ν) (outcome : RuntimeUserDeltaApplyOutcome) : Prop where
  only : OnlyTags tags core core'
  applied : outcome = .applied → ∀ tag ∈ tags, Settled plan sync core' tag
  deferred : outcome = .deferred → plan.resolved.continueOnError = true ∧ ∃ passed missing rest,
    tags = passed ++ missing :: rest ∧ ¬ plansTag corePlan missing ∧ ∀ tag ∈ passed, Settled plan sync core' tag
  rebuild : outcome = .rebuild → ∃ tag ∈ tags,
    if plansTag corePlan tag then refuses answers tag = true else plan.resolved.continueOnError = false

/-- What the delta loop relies on for a tag. -/
structure TagReady (answers : TickAnswers) (plan : RuntimeBootstrapPlan) (corePlan : CorePlan) (sync : RuntimeUserSync)
    (core : RunningCore ν) (tag : Text) : Prop where
  target : TagOk corePlan tag
  running : plansTag corePlan tag → tag ∈ core.inbounds
  change : ∃ entry change, sync[tag]? = some entry ∧ entry.lastChange = some change ∧
    Deliverable plan core tag entry change
  refusals : RefusalsOk answers plan tag

theorem TagReady.set {corePlan : CorePlan} {core : RunningCore ν} {tag other : Text}
    (h : TagReady answers plan corePlan sync core tag) (hne : tag ≠ other) (hmem : other ∈ core.inbounds)
    (inbound : CoreInbound) : TagReady answers plan corePlan sync (core.set other inbound) tag := by
  obtain ⟨entry, change, hentry, hchange, hdeliverable⟩ := h.change
  refine ⟨h.target, fun hplans => (RunningCore.mem_set hmem inbound tag).2 (h.running hplans),
    ⟨entry, change, hentry, hchange, fun found hfound => hdeliverable found ?_⟩, h.refusals⟩
  rwa [core.set_get_ne hne] at hfound

/-- **The delta loop**, over any tags that are ready. -/
theorem deltaLoop_spec {corePlan : CorePlan} {tags : List Text} (hnodup : tags.Nodup) {world : ControlWorld ν σ}
    {core : RunningCore ν} (hcore : world.core = some core)
    (hready : ∀ tag ∈ tags, TagReady answers plan corePlan sync core tag) :
    ∃ outcome core', applyUserDeltasToNodes answers plan corePlan sync tags world =
        (outcome, { world with core := some core' }) ∧
      Delivery answers plan corePlan sync tags core core' outcome := by
  induction tags generalizing world core with
  | nil =>
    refine ⟨.applied, core, ?_, OnlyTags.refl _ _, fun _ _ h => (by cases h), fun h => (by cases h),
      fun h => (by cases h)⟩
    rw [applyUserDeltasToNodes, ← hcore]
  | cons tag tags ih =>
    obtain ⟨hfresh, hnodup⟩ := List.nodup_cons.1 hnodup
    have htag := hready tag List.mem_cons_self
    obtain ⟨entry, change, hentry, hchange, hdeliverable⟩ := htag.change
    rw [applyUserDeltasToNodes]
    simp only [hentry, hchange, Option.bind_some, Option.map_some, targetTags_eq htag.target]
    by_cases hplans : plansTag corePlan tag
    · have hmem := htag.running hplans
      obtain ⟨inbound, hinbound⟩ := Option.isSome_iff_exists.1 (ExtTreeMap.mem_iff_isSome_getElem?.1 hmem)
      rw [if_pos hplans]
      simp only [applyUserDeltaToTargets]
      rcases applyUserDeltaToTarget_cases hcore hinbound hdeliverable htag.refusals with
        ⟨after, husers, hstep⟩ | ⟨hrefuses, hstep⟩
      · -- the tag is settled, and the loop goes on with the others as they were
        have hrest : ∀ other ∈ tags, TagReady answers plan corePlan sync (core.set tag after) other := by
          intro other hother
          have hne : other ≠ tag := fun heq => hfresh (heq ▸ hother)
          exact (hready other (List.mem_cons_of_mem _ hother)).set hne hmem after
        have hset : ({ world with core := some (core.set tag after) } : ControlWorld ν σ).core =
            some (core.set tag after) := rfl
        obtain ⟨outcome, core', hrun, hdelivery⟩ := ih hnodup hset hrest
        have hsettled : Settled plan sync core' tag :=
          settled_congr (hdelivery.only.others tag hfresh) (settled_set core hentry husers)
        refine ⟨outcome, core', ?_, hdelivery.only.cons hmem, fun happlied other hother => ?_, fun hdeferred => ?_,
          fun hrebuild => ?_⟩
        · simp only [hstep]
          exact hrun
        · rcases List.mem_cons.1 hother with rfl | hother
          · exact hsettled
          · exact hdelivery.applied happlied other hother
        · obtain ⟨hcontinue, passed, missing, rest, rfl, hmissing, hpassed⟩ := hdelivery.deferred hdeferred
          refine ⟨hcontinue, tag :: passed, missing, rest, rfl, hmissing, fun other hother => ?_⟩
          rcases List.mem_cons.1 hother with rfl | hother
          · exact hsettled
          · exact hpassed other hother
        · obtain ⟨other, hother, hwhy⟩ := hdelivery.rebuild hrebuild
          exact ⟨other, List.mem_cons_of_mem _ hother, hwhy⟩
      · refine ⟨.rebuild, core, ?_, OnlyTags.refl _ _, fun h => (by cases h), fun h => (by cases h),
          fun _ => ⟨tag, List.mem_cons_self, by rw [if_pos hplans]; exact hrefuses⟩⟩
        simp only [hstep, ← hcore]
    · rw [if_neg hplans]
      refine ⟨_, core, by rw [← hcore], OnlyTags.refl _ _, fun h => ?_, fun h => ⟨?_, [], tag, tags, rfl, hplans,
        fun _ h => (by cases h)⟩, fun h => ⟨tag, List.mem_cons_self, ?_⟩⟩
      · split at h <;> cases h
      · split at h
        · assumption
        · cases h
      · rw [if_neg hplans]
        split at h
        · cases h
        · rename_i hcontinue
          simpa using hcontinue

/-- The targets of one node in the baseline, on a core that runs the tag. -/
theorem sendSnapshots_eq {world : ControlWorld ν σ} {core : RunningCore ν} {tag : Text} {entry : RuntimeUserSyncEntry}
    (hcore : world.core = some core) (hmem : tag ∈ core.inbounds) (hanswer : answers.baseline tag = none) :
    sendSnapshots answers entry (keliCoreDeviceLimitFallbackForNode plan tag) [tag] world =
      (true, { world with core := some (core.set tag
        { revision := entry.state.revision, users := expectedUsers plan tag entry }) }) := by
  obtain ⟨inbound, hinbound⟩ := Option.isSome_iff_exists.1 (ExtTreeMap.mem_iff_isSome_getElem?.1 hmem)
  simp only [sendSnapshots, hanswer]
  rcases sendUserDelta_cases hcore hinbound none
    (keliCoreUserFullSnapshotPayload entry (keliCoreDeviceLimitFallbackForNode plan tag)) with
    ⟨error, hrefused, -⟩ | ⟨-, error, herror, -⟩ | ⟨-, after, hafter, hsend⟩
  · cases hrefused
  · cases herror
  · cases hafter
    simp only [hsend]
    rfl

/-- **The baseline loop**: what is settled stays so, and where no call is refused every tag is settled. -/
theorem baselineLoop_spec {corePlan : CorePlan} {tags : List Text} (hnodup : tags.Nodup) {world : ControlWorld ν σ}
    {core : RunningCore ν} (hcore : world.core = some core)
    (htags : ∀ tag ∈ tags, TagOk corePlan tag ∧ (tag ∈ core.inbounds ↔ plansTag corePlan tag) ∧
      sync[tag]?.isSome = true) :
    ∃ core', establishBaseline answers plan corePlan sync tags world = { world with core := some core' } ∧
      OnlyTags tags core core' ∧ (∀ tag, Settled plan sync core tag → Settled plan sync core' tag) ∧
      ((∀ tag ∈ tags, answers.baseline tag = none) → ∀ tag ∈ tags, Settled plan sync core' tag) := by
  induction tags generalizing world core with
  | nil =>
    refine ⟨core, ?_, OnlyTags.refl _ _, fun _ h => h, fun _ _ h => (by cases h)⟩
    rw [establishBaseline, ← hcore]
  | cons tag tags ih =>
    obtain ⟨hfresh, hnodup⟩ := List.nodup_cons.1 hnodup
    obtain ⟨htarget, hkeys, hsome⟩ := htags tag List.mem_cons_self
    obtain ⟨entry, hentry⟩ := Option.isSome_iff_exists.1 hsome
    rw [establishBaseline]
    simp only [hentry, targetTags_eq htarget]
    by_cases hplans : plansTag corePlan tag
    · have hmem := hkeys.2 hplans
      rw [if_pos hplans]
      cases hanswer : answers.baseline tag with
      | some error =>
        refine ⟨core, ?_, OnlyTags.refl _ _, fun _ h => h, fun hnone => ?_⟩
        · simp only [sendSnapshots, hanswer, sendUserDelta, ← hcore]
        · rw [hnone tag List.mem_cons_self] at hanswer
          cases hanswer
      | none =>
        simp only [sendSnapshots_eq hcore hmem hanswer]
        obtain ⟨after, hafter, husers⟩ : ∃ after : CoreInbound,
            after = { revision := entry.state.revision, users := expectedUsers plan tag entry } ∧
              after.users = expectedUsers plan tag entry := ⟨_, rfl, rfl⟩
        rw [← hafter]
        have hrest : ∀ other ∈ tags, TagOk corePlan other ∧
            (other ∈ (core.set tag after).inbounds ↔ plansTag corePlan other) ∧ sync[other]?.isSome = true := by
          intro other hother
          obtain ⟨htarget, hkeys, hrest⟩ := htags other (List.mem_cons_of_mem _ hother)
          exact ⟨htarget, (RunningCore.mem_set hmem after other).trans hkeys, hrest⟩
        have hset : ({ world with core := some (core.set tag after) } : ControlWorld ν σ).core =
            some (core.set tag after) := rfl
        obtain ⟨core', hrun, honly, hkept, hsettled⟩ := ih hnodup hset hrest
        have hown : Settled plan sync core' tag :=
          settled_congr (honly.others tag hfresh) (settled_set core hentry husers)
        refine ⟨core', hrun, honly.cons hmem, fun other hother => ?_, fun hnone other hother => ?_⟩
        · by_cases hsame : other = tag
          · subst hsame
            exact hown
          · exact hkept other (settled_congr (core.set_get_ne hsame after) hother)
        · rcases List.mem_cons.1 hother with rfl | hother
          · exact hown
          · exact hsettled (fun tag htag => hnone tag (List.mem_cons_of_mem _ htag)) other hother
    · rw [if_neg hplans]
      obtain ⟨core', hrun, honly, hkept, hsettled⟩ := ih hnodup hcore fun other hother =>
        htags other (List.mem_cons_of_mem _ hother)
      have hnot : tag ∉ core'.inbounds := fun hmem => hplans (hkeys.1 ((honly.keys tag).1 hmem))
      refine ⟨core', hrun, ⟨honly.keys, fun other hother => ?_⟩, hkept, fun hnone other hother => ?_⟩
      · exact honly.others other fun hmem => hother (List.mem_cons_of_mem _ hmem)
      · rcases List.mem_cons.1 hother with rfl | hother
        · exact settled_of_not_mem hnot
        · exact hsettled (fun tag htag => hnone tag (List.mem_cons_of_mem _ htag)) other hother

end

end KeliNode
