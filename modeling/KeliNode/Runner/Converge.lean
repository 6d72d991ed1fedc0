import KeliNode.Runner.Changes

/-!
# The core's users follow the sync state

The second part of a tick applies the plan.  Where no rebuild came before, the file already holds the plan and
the core is left alone, though the plan's own users may be stale; after a rebuild the plan is fresh, and the
lists of the changed tags follow (`Ready`).  `users_converge` puts the parts of a turn together: along every run
whose turns are good, the core holds the users of the sync entries after each turn that returns `Ok`.
-/

namespace KeliNode

open Lib Std

section

variable {ν σ : Type}

/-! ## Between the parts of a tick -/

/-- A core that runs while a plan is about to be applied.  It has the inbounds of the file; the plan renders to
the file, or it is fresh and has no inbounds but those of the core and the changed tags. -/
structure Ready (env : ControlEnv ν σ) (deltaApplied : Bool) (tags : List Text) (loop : RuntimeLoop ν σ)
    (core : RunningCore ν) : Prop where
  file : ∃ content, loop.world.configFile (coreConfigPath loop.plan.resolved) = some content ∧
    (∀ tag, tag ∈ core.inbounds ↔ tag ∈ content.inbounds.map (·.1)) ∧
    ((∀ corePlan, loop.plan.corePlan = some corePlan → renderCoreConfig env corePlan true = .ok content) ∨
      (deltaApplied = false ∧ PlanFresh loop.plan loop.userSync ∧
        ∀ tag ∈ plannedTags loop.plan, tag ∈ core.inbounds ∨ tag ∈ tags))
  settled : ∀ tag ∈ plannedTags loop.plan, tag ∉ tags → Settled loop.plan loop.userSync core tag

/-- The loop between the parts of a tick, with the lists of `tags` still to be sent. -/
structure Between (env : ControlEnv ν σ) (answers : TickAnswers) (before : RuntimeLoop ν σ) (deltaApplied : Bool)
    (tags : List Text) (loop : RuntimeLoop ν σ) : Prop where
  ok : LoopOk loop
  resolved : loop.plan.resolved = before.plan.resolved
  nodes : loop.plan.nodeInfos.Sublist before.plan.nodeInfos
  running : loop.world.core.isSome = before.world.core.isSome
  nodup : tags.Nodup
  entries : ∀ tag ∈ tags, loop.userSync[tag]?.isSome = true
  tagOk : ∀ corePlan, loop.plan.corePlan = some corePlan → ∀ tag ∈ tags, TagOk corePlan tag
  baseline : tags ≠ [] → loop.world.core.isSome = true →
    answers.baselineClient = none ∧ ∀ tag ∈ tags, answers.baseline tag = none
  ready : ∀ core, loop.world.core = some core → Ready env deltaApplied tags loop core

theorem renderedTags (plan : CorePlan) (includeUsers : Bool) :
    (renderedInbounds plan includeUsers).map (·.1) = plan.inbounds.map (·.tag) := by
  rw [renderedInbounds, List.map_map]
  rfl

theorem LoopOk.configPath {loop : RuntimeLoop ν σ} (h : LoopOk loop) {corePlan : CorePlan}
    (hplan : loop.plan.corePlan = some corePlan) : corePlan.configPath = coreConfigPath loop.plan.resolved := by
  obtain ⟨_, hbuilt⟩ := h.built
  exact (hbuilt.corePlan corePlan hplan).1

/-- A loop without pending changes is ready. -/
theorem Converged.between {env : ControlEnv ν σ} {loop : RuntimeLoop ν σ} (h : Converged env loop)
    (before : RuntimeLoop ν σ) (hplan : loop.plan = before.plan) (hrunning : loop.world.core.isSome = before.world.core.isSome)
    (answers : TickAnswers) (deltaApplied : Bool) : Between env answers before deltaApplied [] loop := by
  refine ⟨h.ok, by rw [hplan], by rw [hplan], hrunning, List.nodup_nil, by simp, by simp, by simp,
    fun core hcore => ⟨?_, fun tag _ _ => h.users core hcore tag⟩⟩
  obtain ⟨corePlan, content, hcorePlan, hrender, hfile, hkeys⟩ := h.onFile core hcore
  refine ⟨content, by rw [← h.ok.configPath hcorePlan]; exact hfile, fun tag => ?_, .inl fun other hother => ?_⟩
  · rw [(renders_of_ok hrender).inbounds, renderedTags]
    exact hkeys tag
  · rw [hcorePlan, Option.some.injEq] at hother
    rw [← hother, hrender]

theorem clearLastChanges_get (tags : List Text) (sync : RuntimeUserSync) (tag : Text) :
    (clearLastChanges tags sync)[tag]? = sync[tag]?.map fun entry =>
      if tag ∈ tags then { entry with lastChange := none } else entry := by
  unfold clearLastChanges
  induction tags generalizing sync with
  | nil => simp
  | cons other tags ih =>
    rw [List.foldl_cons, ih]
    cases hother : sync[other]? with
    | none =>
      by_cases hsame : tag = other
      · subst hsame
        simp [hother]
      · simp [hsame]
    | some entry =>
      by_cases hsame : tag = other
      · subst hsame
        simp [hother]
      · simp [hsame, ExtTreeMap.getElem?_insert, Ne.symm hsame]

/-- The state of an entry does not change when its change is cleared. -/
theorem clearLastChanges_state (tags : List Text) {sync : RuntimeUserSync} {tag : Text} {entry : RuntimeUserSyncEntry}
    (h : (clearLastChanges tags sync)[tag]? = some entry) :
    ∃ before, sync[tag]? = some before ∧ before.state = entry.state := by
  rw [clearLastChanges_get, Option.map_eq_some_iff] at h
  obtain ⟨before, hbefore, rfl⟩ := h
  refine ⟨before, hbefore, ?_⟩
  split <;> rfl

theorem settled_clearLastChanges {plan : RuntimeBootstrapPlan} {sync : RuntimeUserSync} {core : RunningCore ν}
    {tag : Text} (tags : List Text) (h : Settled plan sync core tag) :
    Settled plan (clearLastChanges tags sync) core tag := by
  refine settled_of_sameUsers (fun before hbefore => ?_) h
  rw [clearLastChanges_get, hbefore]
  refine ⟨_, rfl, ?_⟩
  split <;> exact SameUsers.refl _

theorem onFile_of_only {env : ControlEnv ν σ} {plan : RuntimeBootstrapPlan} {world : ControlWorld ν σ}
    {core core' : RunningCore ν} {tags : List Text} (honly : OnlyTags tags core core')
    (h : OnFile env plan world core) : OnFile env plan { world with core := some core' } core' := by
  obtain ⟨corePlan, content, hplan, hrender, hfile, hkeys⟩ := h
  exact ⟨corePlan, content, hplan, hrender, hfile, fun tag => (honly.keys tag).trans (hkeys tag)⟩

section

variable {validate : InboundPlan → Except Text Unit} {env : ControlEnv ν σ} {answers : TickAnswers}
  {reportToPanel : Bool} {users : UsersByNodeTag} {loop after : RuntimeLoop ν σ} {changes : UserChanges}

/-- Deltas that were all delivered. -/
theorem converged_of_applied {corePlan : CorePlan} {core core' : RunningCore ν} (hpending : Pending env loop users.keys)
    (hcore : loop.world.core = some core)
    (hdelivery : Delivery answers loop.plan corePlan loop.userSync users.keys core core' .applied)
    (lookup : KeliCoreUserIdLookup) :
    Converged env { loop with
      world := { loop.world with core := some core' }
      userIdLookup := lookup
      userSync := clearLastChanges users.keys loop.userSync } := by
  refine ⟨⟨hpending.ok.built, hpending.ok.tags, fun tag entry hentry => ?_⟩, fun found hfound => ?_,
    fun found hfound tag => ?_⟩
  · obtain ⟨before, hbefore, hstate⟩ := clearLastChanges_state users.keys hentry
    rw [← hstate]
    exact hpending.ok.sync tag before hbefore
  · cases hfound
    exact onFile_of_only hdelivery.only (hpending.onFile core hcore)
  · cases hfound
    refine settled_clearLastChanges users.keys ?_
    by_cases htag : tag ∈ users.keys
    · exact hdelivery.applied rfl tag htag
    · exact settled_congr (hdelivery.only.others tag htag) (hpending.settled core hcore tag htag)

/-- A deferred attempt, where no changed tag that comes later has an inbound. -/
theorem converged_of_deferred {corePlan : CorePlan} {core core' : RunningCore ν}
    (hpending : Pending env loop users.keys) (hplan : loop.plan.corePlan = some corePlan)
    (hcore : loop.world.core = some core) (htries : triesDeltas answers loop users.keys = true)
    (hdelivery : Delivery answers loop.plan corePlan loop.userSync users.keys core core' .deferred)
    (hgood : GoodTick env answers loop users.keys) :
    Converged env { loop with world := { loop.world with core := some core' } } := by
  have honFile := onFile_of_only hdelivery.only (hpending.onFile core hcore)
  refine ⟨⟨hpending.ok.built, hpending.ok.tags, hpending.ok.sync⟩, fun found hfound => ?_, fun found hfound tag => ?_⟩
  · cases hfound
    exact honFile
  · cases hfound
    obtain ⟨hcontinue, passed, missing, rest, htags, hmissing, hpassed⟩ := hdelivery.deferred rfl
    have hplanned : ∀ tag, tag ∈ plannedTags loop.plan ↔ plansTag corePlan tag := by
      intro tag
      rw [plannedTags, hplan]
      rfl
    -- without an inbound in the plan the core has none either
    have hunplanned : ∀ tag, ¬ plansTag corePlan tag → Settled loop.plan loop.userSync core' tag := by
      intro tag hnot
      obtain ⟨found, _, hfound, -, -, hkeys⟩ := honFile
      rw [hplan, Option.some.injEq] at hfound
      subst hfound
      exact settled_of_not_mem fun hmem => hnot ((hkeys tag).1 hmem)
    by_cases htag : tag ∈ users.keys
    · have hpairs := hgood.deferred hcontinue htries
      rw [htags] at htag hpairs
      rcases List.mem_append.1 htag with hmem | hmem
      · exact hpassed tag hmem
      · rcases List.mem_cons.1 hmem with rfl | hmem
        · exact hunplanned tag hmissing
        · have hlater := (List.pairwise_cons.1 (List.pairwise_append.1 hpairs).2.1).1 tag hmem
          refine hunplanned tag fun hplans => hmissing ?_
          exact (hplanned missing).1 (hlater ((hplanned tag).2 hplans))
    · exact settled_congr (hdelivery.only.others tag htag) (hpending.settled core hcore tag htag)

/-- A rebuilt plan is fresh, and the tags that did not change are settled. -/
theorem between_of_rebuilt {world : ControlWorld ν σ} {plan : RuntimeBootstrapPlan}
    (hpending : Pending env loop users.keys) (hmay : mayRebuild answers loop users.keys = true)
    (hworld : AfterDeltas users.keys loop.world world)
    (hplan : rebuildRuntimePlanWithUsers validate loop.plan
      (userSyncUsersForRuntimeRebuild loop.plan loop.userSync users.keys users) = .ok plan)
    (hgood : GoodTick env answers loop users.keys) (lookup : KeliCoreUserIdLookup) :
    Between env answers loop false users.keys { loop with world, plan, userIdLookup := lookup } ∧
      PlanFresh plan loop.userSync := by
  have hlatest : LatestOk loop.plan loop.userSync users.keys := hgood.latest (by rw [hmay, Bool.or_true])
  have hrebuilt := rebuild_fresh hpending.ok.built hpending.ok.tags.nodup hpending.ok.sync hpending.entries hlatest hplan
  refine ⟨⟨⟨hrebuilt.built, hpending.ok.tags.sublist hrebuilt.nodes, hpending.ok.sync⟩, hrebuilt.resolved, hrebuilt.nodes,
    hworld.running, hpending.nodup, hpending.entries,
    fun corePlan hcorePlan tag htag => hpending.tagOk hrebuilt.built hrebuilt.nodes hcorePlan htag,
    fun _ hrunning => hgood.baseline hmay (by rw [← hworld.running]; exact hrunning), fun core' hcore' => ?_⟩,
    hrebuilt.fresh⟩
  obtain ⟨core, hcore, honly⟩ := hworld.only core' hcore'
  obtain ⟨corePlan, content, hcorePlan, hrender, hfile, hkeys⟩ := hpending.onFile core hcore
  refine ⟨⟨content, ?_, fun tag => ?_, .inr ⟨rfl, hrebuilt.fresh, fun tag htag => ?_⟩⟩, fun tag htag hnot => ?_⟩
  · rw [hworld.configFile, hrebuilt.resolved, ← hpending.ok.configPath hcorePlan]
    exact hfile
  · rw [honly.keys, hkeys, (renders_of_ok hrender).inbounds, renderedTags]
    rfl
  · obtain ⟨inbound, hinbound, rfl⟩ := List.mem_map.1 htag
    refine (hrebuilt.planned inbound hinbound).imp_left fun hmem => ?_
    rw [honly.keys, hkeys]
    rw [hcorePlan] at hmem
    exact hmem
  · obtain ⟨inbound, hinbound, rfl⟩ := List.mem_map.1 htag
    intro found hfound
    rw [honly.others _ hnot] at hfound
    obtain ⟨entry, hentry, husers⟩ := hpending.settled core hcore _ hnot found hfound
    refine ⟨entry, hentry, husers.trans ?_⟩
    rw [expectedUsers, expectedUsers, hrebuilt.fallback inbound hinbound]

/-- **After the changes**: the turn is over, or the plan is about to be applied. -/
theorem changes_between (hpending : Pending env loop users.keys) (hgood : GoodTick env answers loop users.keys)
    (h : ChangesStep validate answers reportToPanel users loop changes after) :
    (changes = .finished ∧ Converged env after) ∨
      ∃ deltaApplied tags, changes = .goOn deltaApplied tags ∧ Between env answers loop deltaApplied tags after ∧
        (after.world.core = none → LatestOk after.plan after.userSync []) := by
  cases h with
  | none hnil =>
    refine .inr ⟨false, [], rfl, ?_, fun hcore => ?_⟩
    · rw [hnil] at hpending
      exact hpending.converged.between loop rfl rfl answers false
    · rw [hnil] at hgood
      exact hgood.latest (by rw [hcore]; rfl)
  | applied hplan hcore hdelivery =>
    have hconverged := converged_of_applied hpending hcore hdelivery
      (syncRuntimeUserIdLookupFromState loop.userSync users.keys loop.userIdLookup)
    cases reportToPanel with
    | false => exact .inl ⟨rfl, hconverged⟩
    | true =>
      refine .inr ⟨true, [], rfl, hconverged.between loop rfl (by rw [hcore]; rfl) answers true, fun hnone => ?_⟩
      cases hnone
  | deferred hplan hcore htries hdelivery =>
    have hconverged := converged_of_deferred hpending hplan hcore htries hdelivery hgood
    cases reportToPanel with
    | false => exact .inl ⟨rfl, hconverged⟩
    | true =>
      refine .inr ⟨false, [], rfl, hconverged.between loop rfl (by rw [hcore]; rfl) answers false, fun hnone => ?_⟩
      cases hnone
  | rebuilt hne hmay hworld hplan =>
    obtain ⟨hbetween, hfresh⟩ := between_of_rebuilt hpending hmay hworld hplan hgood _
    exact .inr ⟨false, users.keys, rfl, hbetween, fun _ => hfresh.latestOk []⟩

/-! ## The restart -/

/-- Where there is nothing to rebuild with, the plan and the entries are both without users. -/
theorem no_users_of_empty {plan : RuntimeBootstrapPlan} {sync : RuntimeUserSync}
    (hnodup : (plannedTags plan).Nodup) (hlatest : LatestOk plan sync [])
    (hempty : (latestUsersByNodeTagForCorePlan plan sync).isEmpty = true) {inbound : InboundPlan}
    (hinbound : inbound ∈ inboundsOf plan.corePlan) :
    ∃ entry, sync[inbound.tag]? = some entry ∧ entry.state.users = [] ∧ inbound.users = [] := by
  have hnone := @latestUsers_of_mem plan sync inbound hnodup hinbound
  have hany := hlatest inbound hinbound (by simp)
  rw [ExtTreeMap.isEmpty_iff.1 hempty, latestUsersForInbound] at hnone
  cases hentry : sync[inbound.tag]? with
  | none => simp [hentry] at hany
  | some entry =>
    simp only [hentry, Option.any_some, Bool.or_eq_true, Bool.not_eq_true', List.isEmpty_iff] at hany
    rw [hentry] at hnone
    have husers : entry.state.users = [] := by
      by_contra hne
      simp only [List.isEmpty_iff, hne, if_false] at hnone
      exact hne (by simpa using hnone.symm)
    exact ⟨entry, rfl, husers, by simpa [husers] using hany⟩

theorem planFresh_of_empty {plan : RuntimeBootstrapPlan} {sync : RuntimeUserSync}
    (hnodup : (plannedTags plan).Nodup) (hlatest : LatestOk plan sync [])
    (hempty : (latestUsersByNodeTagForCorePlan plan sync).isEmpty = true) : PlanFresh plan sync := by
  intro inbound hinbound
  obtain ⟨entry, hentry, husers, hplanned⟩ := no_users_of_empty hnodup hlatest hempty hinbound
  refine ⟨entry, hentry, ?_⟩
  rw [hplanned, husers]
  rfl

/-- What is done before a start: nothing where the core runs or is not to run, a rebuild otherwise. -/
inductive RestartStep (validate : InboundPlan → Except Text Unit) (loop : RuntimeLoop ν σ) : RuntimeLoop ν σ → Prop
  | running {core : RunningCore ν} (hcore : loop.world.core = some core) : RestartStep validate loop loop
  | unplanned (hplan : loop.plan.corePlan = none) : RestartStep validate loop loop
  | noUsers (hcore : loop.world.core = none)
      (hempty : (latestUsersByNodeTagForCorePlan loop.plan loop.userSync).isEmpty = true) :
      RestartStep validate loop loop
  | rebuilt {corePlan : CorePlan} {plan : RuntimeBootstrapPlan} (hcore : loop.world.core = none)
      (hcorePlan : loop.plan.corePlan = some corePlan)
      (hplan : rebuildRuntimePlanWithUsers validate loop.plan
        (userSyncUsersForRuntimeRebuild loop.plan loop.userSync [] ∅) = .ok plan) :
      RestartStep validate loop { loop with plan, userIdLookup := runtimeUserIdLookupFromPlan plan }

theorem ensureRestart_cases (h : ensureKeliCoreRsRestartUsesLatestUsers validate answers loop = .ok after) :
    RestartStep validate loop after := by
  unfold ensureKeliCoreRsRestartUsesLatestUsers at h
  cases hplan : loop.plan.corePlan with
  | none =>
    simp only [hplan] at h
    cases h
    exact .unplanned hplan
  | some corePlan =>
    cases hstatus : coreStatus answers.restart loop.world with
    | error error => simp [hplan, hstatus] at h
    | ok running =>
      simp only [hplan, hstatus] at h
      cases running with
      | true =>
        cases h
        obtain ⟨core, hcore⟩ := Option.isSome_iff_exists.1 (isSome_of_coreStatus hstatus).2
        exact .running hcore
      | false =>
        have hcore : loop.world.core = none := by
          unfold coreStatus at hstatus
          split at hstatus
          · cases hstatus
          · simpa using Except.ok.inj hstatus
        simp only at h
        split at h
        · rename_i hempty
          cases h
          exact .noUsers hcore hempty
        · unfold RuntimeLoop.rebuilt at h
          rw [latestUsers_eq_rebuildUsers] at h
          cases hrebuild : rebuildRuntimePlanWithUsers validate loop.plan
              (userSyncUsersForRuntimeRebuild loop.plan loop.userSync [] ∅) with
          | error error => rw [hrebuild] at h; cases h
          | ok plan =>
            rw [hrebuild] at h
            cases h
            exact .rebuilt hcore hplan hrebuild

/-- **A start is prepared**: a core that does not run is to be started from a fresh plan. -/
theorem restart_between {before : RuntimeLoop ν σ} {deltaApplied : Bool} {tags : List Text}
    (hbetween : Between env answers before deltaApplied tags loop)
    (hlatest : loop.world.core = none → LatestOk loop.plan loop.userSync [])
    (h : RestartStep validate loop after) :
    Between env answers before deltaApplied tags after ∧
      (after.world.core = none → PlanFresh after.plan after.userSync) := by
  cases h with
  | running hcore =>
    refine ⟨hbetween, fun hnone => ?_⟩
    rw [hcore] at hnone
    cases hnone
  | unplanned hplan =>
    refine ⟨hbetween, fun _ inbound hinbound => ?_⟩
    rw [hplan] at hinbound
    cases hinbound
  | noUsers hcore hempty =>
    obtain ⟨built, hbuilt⟩ := hbetween.ok.built
    exact ⟨hbetween, fun _ => planFresh_of_empty (hbuilt.nodup_tags hbetween.ok.tags.nodup) (hlatest hcore) hempty⟩
  | @rebuilt corePlan plan hcore hcorePlan hplan =>
    have hrebuilt := rebuild_fresh hbetween.ok.built hbetween.ok.tags.nodup hbetween.ok.sync (by simp)
      (hlatest hcore) hplan
    have htags := hbetween.ok.tags.sublist hrebuilt.nodes
    refine ⟨⟨⟨hrebuilt.built, htags, hbetween.ok.sync⟩, hrebuilt.resolved.trans hbetween.resolved,
      hrebuilt.nodes.trans hbetween.nodes, hbetween.running, hbetween.nodup, hbetween.entries,
      fun rebuilt hnewPlan tag htag => ?_, hbetween.baseline, fun core hsome => ?_⟩, fun _ => hrebuilt.fresh⟩
    · obtain ⟨users, hnew⟩ := hrebuilt.built
      have hnodup := hnew.nodup_tags htags.nodup
      rw [hnewPlan] at hnodup
      refine ⟨hnodup, fun inbound hinbound => ?_⟩
      have hmem := (hrebuilt.planned inbound (by rw [hnewPlan]; exact hinbound)).resolve_right (by simp)
      rw [hcorePlan] at hmem
      obtain ⟨old, hold, heq⟩ := List.mem_map.1 hmem
      rw [← heq]
      exact (hbetween.tagOk corePlan hcorePlan tag htag).apart old hold
    · rw [hcore] at hsome
      cases hsome

/-! ## The apply -/

theorem applyConfig_get (revision : Text → Int) (config : CoreConfig ν) (tag : Text) :
    (applyConfig revision config).inbounds[tag]? = (lastWith (·.1) config.inbounds tag).map fun inbound =>
      { revision := revision inbound.1, users := coreUsersOf inbound.2 } := by
  refine (getElem?_foldl_insert (·.1) (fun inbound : Text × List CoreUser =>
    ({ revision := revision inbound.1, users := coreUsersOf inbound.2 } : CoreInbound)) config.inbounds
    (∅ : BTreeMap Text CoreInbound) tag).trans ?_
  simp

theorem applyRoutes_get (revision : Text → Int) (config : CoreConfig ν) (core : RunningCore ν) (tag : Text) :
    (applyRoutes revision config core).inbounds[tag]? = (lastWith (·.1) config.inbounds tag).map fun inbound =>
      core.inbounds.getD inbound.1 { revision := revision inbound.1, users := ∅ } := by
  refine (getElem?_foldl_insert (·.1) (fun inbound : Text × List CoreUser =>
    core.inbounds.getD inbound.1 { revision := revision inbound.1, users := ∅ }) config.inbounds
    (∅ : BTreeMap Text CoreInbound) tag).trans ?_
  simp

theorem lastWith_isSome_iff {inbounds : List (Text × List CoreUser)} {tag : Text} :
    (lastWith (·.1) inbounds tag).isSome = true ↔ tag ∈ inbounds.map (·.1) := by
  rw [Option.isSome_iff_ne_none, Ne, lastWith_eq_none]
  simp

theorem mem_applyConfig {revision : Text → Int} {config : CoreConfig ν} {tag : Text} :
    tag ∈ (applyConfig revision config).inbounds ↔ tag ∈ config.inbounds.map (·.1) := by
  rw [ExtTreeMap.mem_iff_isSome_getElem?, applyConfig_get, Option.isSome_map, lastWith_isSome_iff]

theorem mem_applyRoutes {revision : Text → Int} {config : CoreConfig ν} {core : RunningCore ν} {tag : Text} :
    tag ∈ (applyRoutes revision config core).inbounds ↔ tag ∈ config.inbounds.map (·.1) := by
  rw [ExtTreeMap.mem_iff_isSome_getElem?, applyRoutes_get, Option.isSome_map, lastWith_isSome_iff]

/-- A core that loads a fresh plan is settled. -/
theorem settled_of_loaded {plan : RuntimeBootstrapPlan} {sync : RuntimeUserSync} {corePlan : CorePlan}
    {content : CoreConfig ν} (hplan : plan.corePlan = some corePlan)
    (hinbounds : content.inbounds = renderedInbounds corePlan true) (hfresh : PlanFresh plan sync)
    (revision : Text → Int) (tag : Text) : Settled plan sync (applyConfig revision content) tag := by
  intro inbound hinbound
  rw [applyConfig_get, Option.map_eq_some_iff] at hinbound
  obtain ⟨⟨found, users⟩, hlast, rfl⟩ := hinbound
  obtain ⟨hmem, rfl⟩ := lastWith_eq_some hlast
  rw [hinbounds, renderedInbounds, List.mem_map] at hmem
  obtain ⟨planned, hplanned, heq⟩ := hmem
  rw [Prod.mk.injEq] at heq
  obtain ⟨rfl, rfl⟩ := heq
  obtain ⟨entry, hentry, husers⟩ := hfresh planned (by rw [hplan]; exact hplanned)
  refine ⟨entry, hentry, ?_⟩
  simp only [if_true, husers]
  rfl

/-- A core that keeps its users keeps what is settled. -/
theorem settled_of_routed {plan : RuntimeBootstrapPlan} {sync : RuntimeUserSync} {bare : CoreConfig ν}
    {core : RunningCore ν} {tag : Text} (hmem : tag ∈ core.inbounds) (hsettled : Settled plan sync core tag)
    (revision : Text → Int) : Settled plan sync (applyRoutes revision bare core) tag := by
  intro inbound hinbound
  rw [applyRoutes_get, Option.map_eq_some_iff] at hinbound
  obtain ⟨⟨found, users⟩, hlast, rfl⟩ := hinbound
  obtain ⟨-, rfl⟩ := lastWith_eq_some hlast
  obtain ⟨kept, hkept⟩ := Option.isSome_iff_exists.1 (ExtTreeMap.mem_iff_isSome_getElem?.1 hmem)
  refine hsettled _ ?_
  rw [ExtTreeMap.getD_eq_getD_getElem?, hkept]
  rfl

/-- A core that keeps its users has none under an inbound it did not have. -/
theorem applyRoutes_users {revision : Text → Int} {bare : CoreConfig ν} {core : RunningCore ν} {tag : Text}
    {inbound : CoreInbound} (h : (applyRoutes revision bare core).inbounds[tag]? = some inbound) :
    core.inbounds[tag]? = some inbound ∨ inbound.users = ∅ := by
  rw [applyRoutes_get, Option.map_eq_some_iff] at h
  obtain ⟨⟨found, users⟩, hlast, rfl⟩ := h
  obtain ⟨-, rfl⟩ := lastWith_eq_some hlast
  rw [ExtTreeMap.getD_eq_getD_getElem?]
  cases core.inbounds[found]? with
  | none => exact .inr rfl
  | some kept => exact .inl rfl

/-- Where no listener of the nodes is taken, none of the inbounds is skipped. -/
theorem no_skipped_listeners {answers : ControlAnswers} {plan : RuntimeBootstrapPlan} {corePlan : CorePlan}
    (hbuilt : ∃ users, BuiltWith users plan) (hplan : plan.corePlan = some corePlan)
    (hfree : listenersFree env answers plan.nodeInfos = true) :
    corePlan.inbounds.filterMap (fun inbound =>
      (firstUnavailableListenerError env answers inbound).map fun error => (inbound.tag, error)) = [] := by
  obtain ⟨users, hbuilt⟩ := hbuilt
  rw [List.filterMap_eq_nil_iff]
  intro inbound hinbound
  obtain ⟨node, hnode, -, hof⟩ := hbuilt.planned.inboundOf inbound (by rw [hplan]; exact hinbound)
  have hnone := List.all_eq_true.1 hfree node hnode
  rw [hof.settings] at hnone
  -- the listeners of an inbound do not depend on its users
  have hsame : firstUnavailableListenerError env answers { inbound with users := [] } =
      firstUnavailableListenerError env answers inbound := rfl
  simp only [Except.toOption, Option.all_some, hsame, Option.isNone_iff_eq_none] at hnone
  rw [hnone]
  rfl

theorem filterUnavailable_eq {answers : ControlAnswers} {plan : RuntimeBootstrapPlan} {corePlan : CorePlan}
    {world : ControlWorld ν σ} (hbuilt : ∃ users, BuiltWith users plan) (hplan : plan.corePlan = some corePlan)
    (hlisteners : plan.resolved.continueOnError = true → (world.core.isSome = true ∧ answers.filterStatus = none) ∨
      listenersFree env answers plan.nodeInfos = true) {found : CorePlan × RuntimeBootstrapPlan}
    (h : filterUnavailableKeliCoreRsListeners env answers corePlan plan world = .ok found) :
    found = (corePlan, plan) := by
  unfold filterUnavailableKeliCoreRsListeners at h
  cases hcontinue : plan.resolved.continueOnError with
  | false =>
    simp only [hcontinue] at h
    exact (Except.ok.inj h).symm
  | true =>
    simp only [hcontinue] at h
    cases hspec : answers.filterSpec with
    | some message => simp [hspec] at h
    | none =>
      simp only [hspec] at h
      by_cases hrunning : (coreStatus answers.filterStatus world).toOption.getD false = true
      · simp only [hrunning] at h
        exact (Except.ok.inj h).symm
      · rcases hlisteners hcontinue with ⟨hsome, hstatus⟩ | hfree
        · simp [coreStatus, hstatus, hsome, Except.toOption] at hrunning
        · simp only [hrunning, no_skipped_listeners hbuilt hplan hfree] at h
          exact (Except.ok.inj h).symm

/-- Where no listener is taken, the plan is applied as it is. -/
theorem reportPlanFor_corePlan {answers : ControlAnswers} {options : RuntimeControlOptions}
    {plan reportPlan : RuntimeBootstrapPlan} {world : ControlWorld ν σ} (hbuilt : ∃ users, BuiltWith users plan)
    (hlisteners : plan.resolved.continueOnError = true → (world.core.isSome = true ∧ answers.filterStatus = none) ∨
      listenersFree env answers plan.nodeInfos = true)
    (h : reportPlanFor env answers plan options world = .ok reportPlan) : reportPlan.corePlan = plan.corePlan := by
  unfold reportPlanFor at h
  cases hplan : plan.corePlan with
  | none =>
    simp only [hplan] at h
    cases h
    exact hplan
  | some corePlan =>
    have hsome : corePlan.inbounds.isEmpty = false := by
      obtain ⟨users, hbuilt⟩ := hbuilt
      simpa using (hbuilt.corePlan corePlan hplan).2
    simp only [hplan] at h
    cases hstart : options.startCore with
    | false =>
      simp only [hstart, Bool.false_eq_true, if_false, bind, Except.bind, hsome] at h
      cases h
      rfl
    | true =>
      simp only [hstart, if_true] at h
      cases hrun : filterUnavailableKeliCoreRsListeners env answers corePlan plan world with
      | error message => simp [hrun, bind, Except.bind] at h
      | ok found =>
        rw [filterUnavailable_eq hbuilt hplan hlisteners hrun] at hrun
        simp only [hrun, bind, Except.bind, hsome, Bool.false_eq_true, if_false] at h
        cases h
        rfl

/-- A file that differs under a running core held another plan, and the plan at hand is fresh. -/
theorem Ready.rebuilt_of_differs {deltaApplied : Bool} {tags : List Text} {core : RunningCore ν}
    (hready : Ready env deltaApplied tags loop core) {corePlan : CorePlan} {content bare : CoreConfig ν}
    (hplan : loop.plan.corePlan = some corePlan) (hrenders : Renders env corePlan content bare)
    (hdiffers : loop.world.configFile (coreConfigPath loop.plan.resolved) ≠ some content) :
    deltaApplied = false ∧ PlanFresh loop.plan loop.userSync ∧
      ∀ tag ∈ plannedTags loop.plan, tag ∈ core.inbounds ∨ tag ∈ tags := by
  obtain ⟨held, hheld, -, hrender | hrebuilt⟩ := hready.file
  · have heq := hrender corePlan hplan
    rw [hrenders.withUsers, Except.ok.injEq] at heq
    exact absurd (heq ▸ hheld) hdiffers
  · exact hrebuilt

/-- A core with the inbounds of the plan, whose file the call has written, is on its file. -/
theorem onFile_of_written {corePlan : CorePlan} {content bare : CoreConfig ν} {core : RunningCore ν}
    {world : ControlWorld ν σ} {files : Text → Option (CoreConfig ν)} (hplan : loop.plan.corePlan = some corePlan)
    (hrenders : Renders env corePlan content bare)
    (hfile : world.configFile = Function.update files corePlan.configPath (some content))
    (hkeys : ∀ tag, tag ∈ core.inbounds ↔ plansTag corePlan tag) : OnFile env loop.plan world core :=
  ⟨corePlan, content, hplan, hrenders.withUsers, by rw [hfile, Function.update_self], hkeys⟩

variable [DecidableEq ν]

/-- An inbound of the core holds what it held before, nobody, or the users of its entry. -/
def NothingElse (loop : RuntimeLoop ν σ) (core : RunningCore ν) (tag : Text) : Prop :=
  Settled loop.plan loop.userSync core tag ∨ ∀ inbound, core.inbounds[tag]? = some inbound → inbound.users = ∅ ∨
    ∃ old, loop.world.core = some old ∧ old.inbounds[tag]? = some inbound

/-- **The plan is applied**: afterwards a core runs the plan from its file, and is settled but for the tags whose
lists are still to be sent. -/
theorem apply_settles {before : RuntimeLoop ν σ} {deltaApplied : Bool} {tags : List Text}
    (hbetween : Between env answers before deltaApplied tags loop)
    (hfresh : loop.world.core = none → PlanFresh loop.plan loop.userSync)
    (hlisteners : loop.plan.resolved.continueOnError = true →
      (loop.world.core.isSome = true ∧ answers.control.filterStatus = none) ∨
        listenersFree env answers.control loop.plan.nodeInfos = true)
    (hreadable : answers.control.configUnreadable = false) {result : RuntimeApplyResult} {world : ControlWorld ν σ}
    (h : applyRuntimePlan env answers.control loop.plan { keliCoreRsUserDeltaApplied := deltaApplied } loop.world =
      (.ok result, world)) :
    ∀ core, world.core = some core → OnFile env loop.plan world core ∧
      (∀ tag, (tag ∉ tags ∨ loop.world.core = none) → Settled loop.plan loop.userSync core tag) ∧
      ∀ tag, NothingElse loop core tag := by
  have hstart : ({ keliCoreRsUserDeltaApplied := deltaApplied } : RuntimeControlOptions).startCore = true := rfl
  have hstep := applyRuntimePlan_cases env answers.control loop.plan hstart loop.world
  rw [h] at hstep
  obtain ⟨file, fingerprint, core', firewall⟩ := world
  simp only at hstep ⊢
  cases hstep with
  | stopped => exact fun _ hcore => by cases hcore
  | noInbounds hplan hreport hnone =>
    rw [← reportPlanFor_corePlan hbetween.ok.built hlisteners hreport] at hplan
    exact absurd hnone hplan
  | @processed reportPlan corePlan content bare changed _ _ hreport hsome hrenders hsame hchanged hcoreStep =>
    have hplan : loop.plan.corePlan = some corePlan := by
      rw [← reportPlanFor_corePlan hbetween.ok.built hlisteners hreport, hsome]
    have hpath := hbetween.ok.configPath hplan
    have htags : ∀ tag, tag ∈ content.inbounds.map (·.1) ↔ plansTag corePlan tag := by
      intro tag
      rw [hrenders.inbounds, renderedTags]
      rfl
    have hplanned : ∀ tag, tag ∈ plannedTags loop.plan ↔ plansTag corePlan tag := by
      intro tag
      rw [plannedTags, hplan]
      rfl
    have hunplanned : ∀ core : RunningCore ν, (∀ tag, tag ∈ core.inbounds ↔ plansTag corePlan tag) → ∀ tag,
        ¬ plansTag corePlan tag → Settled loop.plan loop.userSync core tag := fun core hkeys tag hnot =>
      settled_of_not_mem fun hmem => hnot ((hkeys tag).1 hmem)
    have hrebuilt : ∀ core, loop.world.core = some core → changed = true → deltaApplied = false ∧
        PlanFresh loop.plan loop.userSync ∧ ∀ tag ∈ plannedTags loop.plan, tag ∈ core.inbounds ∨ tag ∈ tags := by
      intro core hcore hnew
      have hdiffers := (hchanged hnew).resolve_left (by simp [hreadable])
      rw [hpath] at hdiffers
      exact (hbetween.ready core hcore).rebuilt_of_differs hplan hrenders hdiffers
    intro core hcore
    subst hcore
    have hok : (Except.ok result : Except Text RuntimeApplyResult).isOk = true := rfl
    rw [hok] at hcoreStep
    generalize hbefore : loop.world.core = old at hcoreStep
    cases hcoreStep with
    | kept hnew hdelta _ _ =>
      have hfalse := (hrebuilt core hbefore hnew).1
      simp only [hfalse] at hdelta
      cases hdelta
    | running hunchanged _ =>
      have hready := hbetween.ready core hbefore
      obtain ⟨held, hheld, hkeys, -⟩ := hready.file
      have hfile := hsame hunchanged
      rw [hpath, hheld, Option.some.injEq] at hfile
      subst hfile
      have hkeys : ∀ tag, tag ∈ core.inbounds ↔ plansTag corePlan tag := fun tag => (hkeys tag).trans (htags tag)
      refine ⟨onFile_of_written hplan hrenders rfl hkeys, fun tag hnot => ?_, fun tag => .inr fun inbound hinbound =>
        .inr ⟨core, hbefore, hinbound⟩⟩
      by_cases hplans : plansTag corePlan tag
      · exact hready.settled tag ((hplanned tag).2 hplans) (hnot.resolve_right (Option.some_ne_none core))
      · exact hunplanned core hkeys tag hplans
    | loaded hwhy =>
      have hplanFresh : PlanFresh loop.plan loop.userSync := by
        cases old with
        | none => exact hfresh hbefore
        | some running => exact (hrebuilt running hbefore (hwhy.resolve_right (Option.some_ne_none running))).2.1
      have hsettled := settled_of_loaded hplan hrenders.inbounds hplanFresh answers.control.freshRevision
      exact ⟨onFile_of_written hplan hrenders rfl fun tag => mem_applyConfig.trans (htags tag), fun tag _ => hsettled tag,
        fun tag => .inl (hsettled tag)⟩
    | @routed running _ hnew hrunning _ =>
      subst hrunning
      obtain ⟨-, -, hnewTags⟩ := hrebuilt running hbefore hnew
      have hkeys : ∀ tag, tag ∈ (applyRoutes answers.control.freshRevision bare running).inbounds ↔
          plansTag corePlan tag := by
        intro tag
        rw [mem_applyRoutes, hrenders.bareInbounds, renderedTags]
        rfl
      refine ⟨onFile_of_written hplan hrenders rfl hkeys, fun tag hnot => ?_, fun tag => .inr fun inbound hinbound =>
        (applyRoutes_users hinbound).symm.imp_right fun hold => ⟨running, hbefore, hold⟩⟩
      by_cases hplans : plansTag corePlan tag
      · have hnot := hnot.resolve_right (Option.some_ne_none running)
        have hmem := (hnewTags tag ((hplanned tag).2 hplans)).resolve_right hnot
        exact settled_of_routed hmem ((hbetween.ready running hbefore).settled tag ((hplanned tag).2 hplans) hnot) _
      · exact hunplanned _ hkeys tag hplans

/-! ## The lists after a rebuild -/

omit [DecidableEq ν] in
theorem establishBaseline_of_none {plan : RuntimeBootstrapPlan} {corePlan : CorePlan} {sync : RuntimeUserSync}
    {tags : List Text} {world : ControlWorld ν σ} (hnone : world.core = none) :
    establishBaseline answers plan corePlan sync tags world = world := by
  induction tags with
  | nil => rfl
  | cons tag tags ih =>
    rw [establishBaseline]
    cases sync[tag]? with
    | none => exact ih
    | some entry =>
      simp only
      cases keliCoreUserDeltaTargetTags corePlan tag with
      | nil => exact ih
      | cons target targets =>
        simp only [sendSnapshots, sendUserDelta, hnone]
        cases answers.baseline target <;> rfl

omit [DecidableEq ν] in
/-- The lists of the changed tags, on a core that is settled but for them. -/
theorem baseline_settles {before : RuntimeLoop ν σ} {deltaApplied : Bool} {tags : List Text} {world : ControlWorld ν σ}
    (hbetween : Between env answers before deltaApplied tags loop)
    (hsettles : ∀ core, world.core = some core → OnFile env loop.plan world core ∧
      ∀ tag, (tag ∉ tags ∨ loop.world.core = none) → Settled loop.plan loop.userSync core tag)
    {core' : RunningCore ν} (h : (tryEstablishKeliCoreRsRevisionBaseline answers loop.plan loop.userSync tags world).core =
      some core') :
    OnFile env loop.plan (tryEstablishKeliCoreRsRevisionBaseline answers loop.plan loop.userSync tags world) core' ∧
      ∀ tag, Settled loop.plan loop.userSync core' tag := by
  have hnone : tags = [] ∨ answers.baselineClient = none ∨ loop.world.core = none := by
    by_cases htags : tags = []
    · exact .inl htags
    · cases hcore : loop.world.core with
      | none => exact .inr (.inr rfl)
      | some core => exact .inr (.inl (hbetween.baseline htags (by rw [hcore]; rfl)).1)
  unfold tryEstablishKeliCoreRsRevisionBaseline at h ⊢
  cases hplan : loop.plan.corePlan with
  | none =>
    simp only [hplan] at h ⊢
    obtain ⟨⟨corePlan, _, hsome, -⟩, -⟩ := hsettles core' h
    rw [hplan] at hsome
    cases hsome
  | some corePlan =>
    cases hclient : answers.baselineClient with
    | some error =>
      simp only [hplan, hclient] at h ⊢
      obtain ⟨honFile, hsettled⟩ := hsettles core' h
      refine ⟨honFile, fun tag => hsettled tag ?_⟩
      rcases hnone with rfl | hnone | hnone
      · exact .inl (by simp)
      · rw [hclient] at hnone
        cases hnone
      · exact .inr hnone
    | none =>
      simp only [hplan, hclient] at h ⊢
      cases hcore : world.core with
      | none =>
        rw [establishBaseline_of_none hcore, hcore] at h
        cases h
      | some core =>
        obtain ⟨honFile, hsettled⟩ := hsettles core hcore
        obtain ⟨found, _, hfound, -, -, hkeys⟩ := id honFile
        rw [hplan, Option.some.injEq] at hfound
        subst hfound
        obtain ⟨core'', hrun, honly, hkept, hall⟩ := @baselineLoop_spec ν σ answers loop.plan loop.userSync corePlan tags
          hbetween.nodup world core hcore
          fun tag htag => ⟨hbetween.tagOk corePlan hplan tag htag, hkeys tag, hbetween.entries tag htag⟩
        rw [hrun] at h ⊢
        cases h
        refine ⟨onFile_of_only honly honFile, fun tag => ?_⟩
        by_cases htag : tag ∈ tags
        · cases hbefore : loop.world.core with
          | none => exact hkept tag (hsettled tag (.inr hbefore))
          | some running =>
            have htags : tags ≠ [] := fun hnil => by simp [hnil] at htag
            exact hall (hbetween.baseline htags (by rw [hbefore]; rfl)).2 tag htag
        · exact hkept tag (hsettled tag (.inl htag))

omit [DecidableEq ν] in
/-- The listeners of the plan that is about to be applied are as free as those of the plan before. -/
theorem Between.listeners {before : RuntimeLoop ν σ} {deltaApplied : Bool} {tags changed : List Text}
    (hbetween : Between env answers before deltaApplied tags loop) (hgood : GoodTick env answers before changed)
    (hcontinue : loop.plan.resolved.continueOnError = true) :
    (loop.world.core.isSome = true ∧ answers.control.filterStatus = none) ∨
      listenersFree env answers.control loop.plan.nodeInfos = true := by
  rw [hbetween.resolved] at hcontinue
  rw [hbetween.running]
  refine (hgood.listeners hcontinue).imp_right fun hfree => ?_
  exact List.all_eq_true.2 fun node hnode => List.all_eq_true.1 hfree node (hbetween.nodes.subset hnode)

/-- **After the lists were sent**, everything is settled. -/
theorem applyTickPlan_converged {before : RuntimeLoop ν σ} {deltaApplied : Bool} {tags : List Text}
    (hbetween : Between env answers before deltaApplied tags loop)
    (hfresh : loop.world.core = none → PlanFresh loop.plan loop.userSync)
    (hgood : GoodTick env answers before users.keys)
    (h : applyTickPlan env answers deltaApplied tags loop = (.ok (), after)) : Converged env after := by
  unfold applyTickPlan at h
  cases happly : applyRuntimePlan env answers.control loop.plan { keliCoreRsUserDeltaApplied := deltaApplied }
      loop.world with
  | mk outcome world =>
    rw [happly] at h
    cases outcome with
    | error error => cases h
    | ok result =>
      cases h
      have hsettles := fun core hcore =>
        (apply_settles hbetween hfresh (hbetween.listeners hgood) hgood.readable happly core hcore).imp_right And.left
      exact ⟨⟨hbetween.ok.built, hbetween.ok.tags, hbetween.ok.sync⟩,
        fun core hcore => (baseline_settles hbetween hsettles hcore).1,
        fun core hcore => (baseline_settles hbetween hsettles hcore).2⟩

/-! ## Turns -/

variable (validate env answers reportToPanel users loop after) in
/-- A tick that returns `Ok`: it ends with the changes, or goes on to apply the plan. -/
inductive TickStep : Prop
  | finished (hchanges : ChangesStep validate answers reportToPanel users loop .finished after)
  | applied {mid restarted : RuntimeLoop ν σ} {deltaApplied : Bool} {tags : List Text}
      (hchanges : ChangesStep validate answers reportToPanel users loop (.goOn deltaApplied tags) mid)
      (hrestart : RestartStep validate mid restarted)
      (happly : applyTickPlan env answers deltaApplied tags restarted = (.ok (), after))

theorem runTick_cases (hpending : Pending env loop users.keys)
    (hrefusals : ∀ tag ∈ users.keys, RefusalsOk answers loop.plan tag)
    (h : runTick validate env answers reportToPanel users loop = (.ok (), after)) :
    TickStep validate env answers reportToPanel users loop after := by
  unfold runTick at h
  cases hchanges : applyUserChanges validate answers reportToPanel users loop with
  | mk outcome mid =>
    rw [hchanges] at h
    cases outcome with
    | error error => cases h
    | ok changes =>
      have hstep := applyUserChanges_cases hpending hrefusals hchanges
      cases changes with
      | finished =>
        cases h
        exact .finished hstep
      | goOn deltaApplied tags =>
        simp only at h
        cases hrestart : ensureKeliCoreRsRestartUsesLatestUsers validate answers mid with
        | error error => simp [hrestart] at h
        | ok restarted =>
          simp only [hrestart] at h
          split at h
          · cases h
          · exact .applied hstep (ensureRestart_cases hrestart) h

theorem tick_converged (hpending : Pending env loop users.keys) (hgood : GoodTick env answers loop users.keys)
    (h : TickStep validate env answers reportToPanel users loop after) : Converged env after := by
  cases h with
  | finished hchanges =>
    rcases changes_between hpending hgood hchanges with ⟨-, hconverged⟩ | ⟨_, _, hgoOn, -⟩
    · exact hconverged
    · cases hgoOn
  | applied hchanges hrestart happly =>
    rcases changes_between hpending hgood hchanges with ⟨hfinished, -⟩ | ⟨_, _, hgoOn, hbetween, hlatest⟩
    · cases hfinished
    · cases hgoOn
      obtain ⟨hbetween, hfresh⟩ := restart_between hbetween hlatest hrestart
      exact applyTickPlan_converged hbetween hfresh hgood happly

variable (env) in
/-- A turn whose answers are well-formed, and whose tick is good. -/
structure GoodTurn (loop : RuntimeLoop ν σ) (step : LoopStep) : Prop where
  panel : ∀ panel ∈ step.panel, ∀ node ∈ loop.plan.nodeInfos, PanelOk (panel node.tag)
  tick : ∀ before ∈ step.before loop, GoodTick env step.answers before.2 before.1.keys

instance (loop : RuntimeLoop ν σ) (step : LoopStep) : Decidable (GoodTurn env loop step) :=
  decidable_of_iff ((∀ panel ∈ step.panel, ∀ node ∈ loop.plan.nodeInfos, PanelOk (panel node.tag)) ∧
      ∀ before ∈ step.before loop, GoodTick env step.answers before.2 before.1.keys)
    ⟨fun h => ⟨h.1, h.2⟩, fun h => ⟨h.1, h.2⟩⟩

variable (validate env loop after) in
/-- A turn that returns `Ok`: a refresh, then a tick, unless an event brought no change. -/
inductive TurnStep (step : LoopStep) : Prop
  | skipped {users : UsersByNodeTag} (hbefore : step.before loop = some (users, after)) (hnil : users.keys = [])
      (hskip : (step.event && users.isEmpty) = true)
  | ticked {users : UsersByNodeTag} {before : RuntimeLoop ν σ} (hbefore : step.before loop = some (users, before))
      (htick : runTick validate env step.answers step.reportToPanel users before = (.ok (), after))
      (hskip : (step.event && users.isEmpty) = false)

theorem loopStep_cases {step : LoopStep} (h : loopStep validate env loop step = some after) :
    TurnStep validate env loop after step := by
  unfold loopStep at h
  cases hbefore : step.before loop with
  | none => rw [hbefore] at h; cases h
  | some found =>
    obtain ⟨users, before⟩ := found
    rw [hbefore, Option.bind_some] at h
    simp only at h
    by_cases hskip : (step.event && users.isEmpty) = true
    · rw [if_pos hskip] at h
      cases h
      refine .skipped hbefore ?_ hskip
      rw [Bool.and_eq_true] at hskip
      rw [← List.isEmpty_iff, ExtTreeMap.isEmpty_keys]
      exact hskip.2
    · rw [if_neg hskip] at h
      cases htick : runTick validate env step.answers step.reportToPanel users before with
      | mk outcome ticked =>
        rw [htick] at h
        cases outcome with
        | error error => cases h
        | ok _ =>
          cases h
          exact .ticked hbefore htick (by simpa using hskip)

theorem turn_converged {step : LoopStep} (hconverged : Converged env loop) (hgood : GoodTurn env loop step)
    (h : TurnStep validate env loop after step) : Converged env after := by
  cases h with
  | skipped hbefore hnil =>
    have hpending := before_pending hconverged hgood.panel hbefore
    rw [hnil] at hpending
    exact hpending.converged
  | ticked hbefore htick =>
    have hpending := before_pending hconverged hgood.panel hbefore
    have htickGood := hgood.tick _ hbefore
    exact tick_converged hpending htickGood (runTick_cases hpending htickGood.refusals htick)

variable (validate env) in
/-- Where the turn returns `Ok`, the core holds the users of the sync state after it. -/
def UsersFollow (loop : RuntimeLoop ν σ) (step : LoopStep) : Prop :=
  ∀ after ∈ loopStep validate env loop step, UsersConverged after

/-- **User convergence**: from a loop whose core, if it runs, is on the plan's file with the users of the sync
state, along every run of good turns, of any panel answers and any answers of the core, each turn that returns
`Ok` leaves the core with the users of the sync state in every inbound it runs. -/
theorem users_converge (validate : InboundPlan → Except Text Unit) (env : ControlEnv ν σ) (steps : List LoopStep)
    (loop : RuntimeLoop ν σ) (hstart : Converged env loop)
    (hgood : Along (loopStep validate env) (GoodTurn env) steps loop) :
    Along (loopStep validate env) (UsersFollow validate env) steps loop := by
  refine Along.of_invariant (fun loop step hconverged hturn => ?_) hstart hgood
  have hnext : ∀ after, loopStep validate env loop step = some after → Converged env after :=
    fun after hafter => turn_converged hconverged hturn (loopStep_cases hafter)
  exact ⟨fun after hafter => (hnext after hafter).users, hnext⟩

end

end

/-! ## Two nodes, one without users -/

section

variable {ν σ : Type}

instance (loop : RuntimeLoop ν σ) : Decidable (UsersConverged loop) :=
  decidable_of_iff (∀ core ∈ loop.world.core, ∀ inbound ∈ core.inbounds.toList,
      loop.userSync[inbound.1]?.any (fun entry => inbound.2.users = expectedUsers loop.plan inbound.1 entry) = true)
    (by
      simp only [UsersConverged, Settled, Option.mem_def, Prod.forall, ExtTreeMap.mem_toList_iff_getElem?_eq_some,
        Option.any_eq_true, decide_eq_true_eq])

instance [DecidableEq ν] (validate : InboundPlan → Except Text Unit) (env : ControlEnv ν σ) (loop : RuntimeLoop ν σ)
    (step : LoopStep) : Decidable (UsersFollow validate env loop step) :=
  inferInstanceAs (Decidable (∀ after ∈ _, _))

instance (nodes : List NodeInfo) : Decidable (NodeTagsOk nodes) :=
  decidable_of_iff ((nodes.map (·.tag)).Nodup ∧
      ∀ a ∈ nodes, ∀ b ∈ nodes, (a.tag ++ ("|port:" : Text)).isPrefixOf b.tag = false)
    ⟨fun h => ⟨h.1, h.2⟩, fun h => ⟨h.1, h.2⟩⟩

end

/-- The agent as it starts: a plan with the panel's users, and nothing else yet. -/
def freshLoop (continueOnError : Bool) (nodes : List NodeInfo) (users : List (Text × List UserInfo)) :
    RuntimeLoop (List (Text × Text × Nat)) Unit where
  plan := plannedNodes continueOnError nodes users
  userIdLookup := runtimeUserIdLookupFromPlan (plannedNodes continueOnError nodes users)
  world := { firewall := () }

theorem freshLoop_converged {continueOnError : Bool} {nodes : List NodeInfo} {users : List (Text × List UserInfo)}
    (hbuild : (buildRuntimeBootstrapPlanWithUsers acceptInbound (panelConfig (nodes.map (·.id)) continueOnError) nodes []
      (ExtTreeMap.ofList users)).isOk = true) (htags : NodeTagsOk nodes) :
    Converged listenEnv (freshLoop continueOnError nodes users) := by
  have hplan : ∃ built, BuiltWith built (freshLoop continueOnError nodes users).plan ∧
      (freshLoop continueOnError nodes users).plan.nodeInfos.Sublist nodes := by
    simp only [freshLoop, plannedNodes]
    cases hplan : buildRuntimeBootstrapPlanWithUsers acceptInbound (panelConfig (nodes.map (·.id)) continueOnError) nodes
        [] (ExtTreeMap.ofList users) with
    | error error => rw [hplan] at hbuild; cases hbuild
    | ok plan =>
      obtain ⟨hbuilt, -, hsub⟩ := build_builtWith hplan
      exact ⟨_, hbuilt, hsub⟩
  obtain ⟨built, hbuilt, hsub⟩ := hplan
  refine ⟨⟨⟨built, hbuilt⟩, htags.sublist hsub, fun tag entry hentry => ?_⟩, fun _ h => (by cases h),
    fun _ h => (by cases h)⟩
  simp [freshLoop] at hentry

/-- A node that gets no inbound before it has users. -/
def vmessNode (id : Nat) (tag : Text) (port : Nat) : NodeInfo :=
  { id, protocol := .vmess, tag, common := { serverPort := port } }

/-- A panel with a delta for each of two nodes; on the disk, the second has a user. -/
def panelDeltas (first second : UserDeltaBody) : Option (Text → PanelUsersAnswer) :=
  some fun tag =>
    if tag = ("node-a" : Text) then { stored := { revision := 1 }, delta := .ok first }
    else { stored := { revision := 1, users := [userA] }, delta := .ok second }

/-- The core starts; a user of the second node is added, then the core exits and is started again. -/
def addThenRestart : List LoopStep :=
  [{ panel := panelDeltas { revision := 1 } { revision := 1 } },
    { panel := panelDeltas { revision := 1 } { revision := 2, upsert := [userB] } },
    { coreExits := true }]

theorem users_converge_added :
    Along (loopStep acceptInbound listenEnv) (UsersFollow acceptInbound listenEnv) addThenRestart
      (freshLoop true [vmessNode 1 "node-a" 8443, trojanNode 2 "node-b" 443] [("node-b", [userA])]) := by
  refine users_converge acceptInbound listenEnv _ _ (freshLoop_converged ?_ ?_) ?_
  · decide +kernel
  · decide +kernel
  · decide +kernel

/-- Both nodes change, the first one in its revision only; then nothing changes any more. -/
def changeBoth : List LoopStep :=
  [{ panel := panelDeltas { revision := 1 } { revision := 1 } },
    { panel := panelDeltas { revision := 2 } { revision := 2, upsert := [userB] } },
    { panel := panelDeltas { revision := 2 } { revision := 2 } }]

/-- The attempt is deferred at the first node, which has no inbound, and the change of the second is gone with the
next refresh: the core never gets its new user. -/
theorem user_left_behind :
    ¬ Along (loopStep acceptInbound listenEnv) (UsersFollow acceptInbound listenEnv) changeBoth
      (freshLoop true [vmessNode 1 "node-a" 8443, trojanNode 2 "node-b" 443] [("node-b", [userA])]) ∧
    (changeBoth.foldlM (loopStep acceptInbound listenEnv)
      (freshLoop true [vmessNode 1 "node-a" 8443, trojanNode 2 "node-b" 443] [("node-b", [userA])])).map
        (fun loop => decide (UsersConverged loop)) = some false := by
  decide +kernel

end KeliNode
