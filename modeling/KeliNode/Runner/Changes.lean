import KeliNode.Runner.Latest

/-!
# The user changes of a tick

Between two turns the loop is `Converged`: a core that runs has the plan's inbounds from the plan's file, and
holds the users of their sync entries.  A refresh leaves `Pending` changes (`before_pending`).  The first part
of the tick delivers them, defers them or rebuilds the plan with them; `applyUserChanges_cases` says what is
left to do after each.

`GoodTick` is what a tick relies on.  Its fields name the ways in which a change falls out between the sync
state, the plan and the core.
-/

namespace KeliNode

open Lib Std

/-! ## The invariant -/

/-- Nodes with tags of their own, none of which looks like a port of another. -/
structure NodeTagsOk (nodes : List NodeInfo) : Prop where
  nodup : (nodes.map (·.tag)).Nodup
  apart : ∀ a ∈ nodes, ∀ b ∈ nodes, (a.tag ++ ("|port:" : Text)).isPrefixOf b.tag = false

theorem NodeTagsOk.sublist {nodes nodes' : List NodeInfo} (h : NodeTagsOk nodes) (hsub : nodes'.Sublist nodes) :
    NodeTagsOk nodes' :=
  ⟨(hsub.map _).nodup h.nodup, fun a ha b hb => h.apart a (hsub.subset ha) b (hsub.subset hb)⟩

section

variable {ν σ : Type}

/-- The plan was built, its tags are apart and the sync state is well-formed. -/
structure LoopOk (loop : RuntimeLoop ν σ) : Prop where
  built : ∃ users, BuiltWith users loop.plan
  tags : NodeTagsOk loop.plan.nodeInfos
  sync : SyncOk loop.userSync

/-- The file holds the configuration of the plan, and the core runs its inbounds. -/
def OnFile (env : ControlEnv ν σ) (plan : RuntimeBootstrapPlan) (world : ControlWorld ν σ) (core : RunningCore ν) :
    Prop :=
  ∃ corePlan content, plan.corePlan = some corePlan ∧ renderCoreConfig env corePlan true = .ok content ∧
    world.configFile corePlan.configPath = some content ∧ ∀ tag, tag ∈ core.inbounds ↔ plansTag corePlan tag

/-- A core that runs holds, for each inbound, the users of its sync entry. -/
def UsersConverged (loop : RuntimeLoop ν σ) : Prop :=
  ∀ core, loop.world.core = some core → ∀ tag, Settled loop.plan loop.userSync core tag

/-- The loop between two turns. -/
structure Converged (env : ControlEnv ν σ) (loop : RuntimeLoop ν σ) : Prop where
  ok : LoopOk loop
  onFile : ∀ core, loop.world.core = some core → OnFile env loop.plan loop.world core
  users : UsersConverged loop

/-! ## The condition -/

/-- The deltas are tried: the core runs, and every changed tag has a delta. -/
def triesDeltas (answers : TickAnswers) (loop : RuntimeLoop ν σ) (tags : List Text) : Bool :=
  loop.world.core.isSome && loop.plan.corePlan.isSome && tags.all (hasDelta loop.userSync) && answers.deltaClient.isNone

/-- The tags the plan has an inbound for. -/
def plannedTags (plan : RuntimeBootstrapPlan) : List Text := (inboundsOf plan.corePlan).map (·.tag)

/-- The changes may lead to a rebuild: the deltas are not tried, a changed tag has no inbound, or a call is
refused. -/
def mayRebuild (answers : TickAnswers) (loop : RuntimeLoop ν σ) (tags : List Text) : Bool :=
  !tags.isEmpty && (!triesDeltas answers loop tags || tags.any fun tag =>
    if tag ∈ plannedTags loop.plan then refuses answers tag else !loop.plan.resolved.continueOnError)

/-- No listener of the plan's nodes is taken. -/
def listenersFree (env : ControlEnv ν σ) (answers : ControlAnswers) (nodes : List NodeInfo) : Bool :=
  nodes.all fun node => (buildInboundPlanWithUsers node []).toOption.all fun inbound =>
    (firstUnavailableListenerError env answers inbound).isNone

/-- What a tick on changed tags relies on. -/
structure GoodTick (env : ControlEnv ν σ) (answers : TickAnswers) (loop : RuntimeLoop ν σ) (tags : List Text) :
    Prop where
  /-- A deferred attempt drops what comes after the tag without an inbound. -/
  deferred : loop.plan.resolved.continueOnError = true → triesDeltas answers loop tags = true →
    tags.Pairwise fun tag later => later ∈ plannedTags loop.plan → tag ∈ plannedTags loop.plan
  refusals : ∀ tag ∈ tags, RefusalsOk answers loop.plan tag
  /-- A rebuild or a start takes the plan's own users where the sync state has none. -/
  latest : (loop.world.core.isNone || mayRebuild answers loop tags) = true → LatestOk loop.plan loop.userSync tags
  /-- The lists after a rebuild are sent once, and a refusal is not tried again. -/
  baseline : mayRebuild answers loop tags = true → loop.world.core.isSome = true →
    answers.baselineClient = none ∧ ∀ tag ∈ tags, answers.baseline tag = none
  /-- A core that is started without some inbounds is brought to the plan's stale users later. -/
  listeners : loop.plan.resolved.continueOnError = true →
    (loop.world.core.isSome = true ∧ answers.control.filterStatus = none) ∨
      listenersFree env answers.control loop.plan.nodeInfos = true
  /-- A file that cannot be read is replaced, and the core with it. -/
  readable : answers.control.configUnreadable = false

set_option synthInstance.maxSize 256 in
instance (env : ControlEnv ν σ) (answers : TickAnswers) (loop : RuntimeLoop ν σ) (tags : List Text) :
    Decidable (GoodTick env answers loop tags) :=
  decidable_of_iff
    ((loop.plan.resolved.continueOnError = true → triesDeltas answers loop tags = true →
        tags.Pairwise fun tag later => later ∈ plannedTags loop.plan → tag ∈ plannedTags loop.plan) ∧
      (∀ tag ∈ tags, RefusalsOk answers loop.plan tag) ∧
      ((loop.world.core.isNone || mayRebuild answers loop tags) = true → LatestOk loop.plan loop.userSync tags) ∧
      (mayRebuild answers loop tags = true → loop.world.core.isSome = true →
        answers.baselineClient = none ∧ ∀ tag ∈ tags, answers.baseline tag = none) ∧
      (loop.plan.resolved.continueOnError = true →
        (loop.world.core.isSome = true ∧ answers.control.filterStatus = none) ∨
          listenersFree env answers.control loop.plan.nodeInfos = true) ∧
      answers.control.configUnreadable = false)
    ⟨fun ⟨a, b, c, d, e, f⟩ => ⟨a, b, c, d, e, f⟩, fun h => ⟨h.1, h.2, h.3, h.4, h.5, h.6⟩⟩

/-! ## After the refresh -/

/-- The loop after a refresh that marked the tags: the others are settled, and a delta of a marked tag leads from
what the core holds to what its entry holds. -/
structure Pending (env : ControlEnv ν σ) (loop : RuntimeLoop ν σ) (tags : List Text) : Prop where
  ok : LoopOk loop
  nodup : tags.Nodup
  nodes : ∀ tag ∈ tags, tag ∈ loop.plan.nodeInfos.map (·.tag)
  entries : ∀ tag ∈ tags, loop.userSync[tag]?.isSome = true
  onFile : ∀ core, loop.world.core = some core → OnFile env loop.plan loop.world core
  settled : ∀ core, loop.world.core = some core → ∀ tag, tag ∉ tags → Settled loop.plan loop.userSync core tag
  deliverable : ∀ core, loop.world.core = some core → ∀ tag ∈ tags, ∀ entry change,
    loop.userSync[tag]? = some entry → entry.lastChange = some change → change.full = false →
      Deliverable loop.plan core tag entry change

/-- With nothing marked the loop is as between two turns. -/
theorem Pending.converged {env : ControlEnv ν σ} {loop : RuntimeLoop ν σ} (h : Pending env loop []) :
    Converged env loop :=
  ⟨h.ok, h.onFile, fun core hcore tag => h.settled core hcore tag (by simp)⟩

theorem Converged.pending {env : ControlEnv ν σ} {loop : RuntimeLoop ν σ} (h : Converged env loop) :
    Pending env loop [] :=
  ⟨h.ok, List.nodup_nil, by simp, by simp, h.onFile, fun core hcore tag _ => h.users core hcore tag, by simp⟩

/-- An exit of the core only takes away what is said about it. -/
theorem Pending.afterExit {env : ControlEnv ν σ} {loop : RuntimeLoop ν σ} {tags : List Text}
    (h : Pending env loop tags) (coreExits : Bool) :
    Pending env { loop with world := loop.world.afterExit coreExits } tags := by
  cases coreExits with
  | false => exact h
  | true =>
    refine ⟨⟨h.ok.built, h.ok.tags, h.ok.sync⟩, h.nodup, h.nodes, h.entries, fun _ hcore => ?_, fun _ hcore => ?_,
      fun _ hcore => ?_⟩ <;> cases hcore

theorem settled_of_sameUsers {plan : RuntimeBootstrapPlan} {sync sync' : RuntimeUserSync} {core : RunningCore ν}
    {tag : Text} (hsame : ∀ before, sync[tag]? = some before →
      ∃ after, sync'[tag]? = some after ∧ SameUsers before.state.users after.state.users)
    (h : Settled plan sync core tag) : Settled plan sync' core tag := by
  intro inbound hinbound
  obtain ⟨before, hbefore, husers⟩ := h inbound hinbound
  obtain ⟨after, hafter, hsame⟩ := hsame before hbefore
  refine ⟨after, hafter, husers.trans ?_⟩
  exact coreUsersOf_congr (fun _ => rfl) fun uuid => (hsame uuid).symm

theorem deliverable_of_leads {plan : RuntimeBootstrapPlan} {sync : RuntimeUserSync} {core : RunningCore ν} {tag : Text}
    {after : RuntimeUserSyncEntry} {change : RuntimeUserDeltaChange} (h : Settled plan sync core tag)
    (hleads : ∀ before, sync[tag]? = some before → DiffLeads change.diff before.state.users after.state.users) :
    Deliverable plan core tag after change := by
  intro inbound hinbound
  obtain ⟨before, hbefore, husers⟩ := h inbound hinbound
  rw [husers]
  exact hleads before hbefore _ fun _ => rfl

/-- What a refresh and an exit of the core leave. -/
structure RefreshedLoop (loop before : RuntimeLoop ν σ) (users : UsersByNodeTag) : Prop where
  plan : before.plan = loop.plan
  userIdLookup : before.userIdLookup = loop.userIdLookup
  world : ∃ coreExits, before.world = loop.world.afterExit coreExits
  sync : SyncOk before.userSync
  nodes : ∀ tag, tag ∈ users → tag ∈ loop.plan.nodeInfos.map (·.tag)
  found : ∀ tag, tag ∈ users → before.userSync[tag]?.isSome = true
  same : ∀ tag, tag ∉ users → ∀ old, loop.userSync[tag]? = some old →
    ∃ new, before.userSync[tag]? = some new ∧ SameUsers old.state.users new.state.users
  leads : ∀ tag, tag ∈ users → ∀ old new change, loop.userSync[tag]? = some old → before.userSync[tag]? = some new →
    new.lastChange = some change → change.full = false → DiffLeads change.diff old.state.users new.state.users

theorem before_refreshed {loop before : RuntimeLoop ν σ} {step : LoopStep} {users : UsersByNodeTag} (hok : LoopOk loop)
    (hpanel : ∀ panel ∈ step.panel, ∀ node ∈ loop.plan.nodeInfos, PanelOk (panel node.tag))
    (h : step.before loop = some (users, before)) : RefreshedLoop loop before users := by
  unfold LoopStep.before LoopStep.refresh at h
  cases hstep : step.panel with
  | none =>
    simp only [hstep] at h
    cases h
    exact ⟨rfl, rfl, ⟨_, rfl⟩, hok.sync, by simp, by simp, fun tag _ old hold => ⟨old, hold, SameUsers.refl _⟩, by simp⟩
  | some panel =>
    simp only [hstep] at h
    cases hload : loadUsersByNodeTagFromPanelWithStateAndMode loop.plan .tagMarkers panel loop.userSync with
    | mk outcome sync =>
      simp only [hload] at h
      cases outcome with
      | error error => cases h
      | ok loaded =>
        cases h
        have hspec := loadUsersByNodeTag_spec hok.tags.nodup (hpanel panel hstep) hok.sync (by simp) hload
        -- a tag that is not a node's is neither touched nor marked
        have hnodes : ∀ tag, tag ∈ users → tag ∈ loop.plan.nodeInfos.map (·.tag) := fun tag htag =>
          by_contra fun hnot => by simpa using ((hspec tag).2 hnot).2.1 htag
        refine ⟨rfl, rfl, ⟨_, rfl⟩, fun tag entry hentry => ?_, hnodes, fun tag htag => ?_, fun tag htag old hold => ?_,
          fun tag htag old new change hold hnew hchange hfull => ?_⟩
        · by_cases hnode : tag ∈ loop.plan.nodeInfos.map (·.tag)
          · exact ((hspec tag).1 hnode).ok entry hentry
          · rw [((hspec tag).2 hnode).1] at hentry
            exact hok.sync tag entry hentry
        · exact ((hspec tag).1 (hnodes tag htag)).found htag
        · by_cases hnode : tag ∈ loop.plan.nodeInfos.map (·.tag)
          · exact ((hspec tag).1 hnode).same htag old hold
          · exact ⟨old, ((hspec tag).2 hnode).1.trans hold, SameUsers.refl _⟩
        · exact ((hspec tag).1 (hnodes tag htag)).leads htag old new change hold hnew hchange hfull

/-- **After a refresh**, with answers that are well-formed. -/
theorem before_pending {env : ControlEnv ν σ} {loop before : RuntimeLoop ν σ} {step : LoopStep}
    {users : UsersByNodeTag} (hconverged : Converged env loop)
    (hpanel : ∀ panel ∈ step.panel, ∀ node ∈ loop.plan.nodeInfos, PanelOk (panel node.tag))
    (h : step.before loop = some (users, before)) : Pending env before users.keys := by
  have hrefreshed := before_refreshed hconverged.ok hpanel h
  obtain ⟨coreExits, hworld⟩ := hrefreshed.world
  have hpending : Pending env { before with world := loop.world } users.keys := by
    obtain ⟨plan, sync, lookup, world⟩ := before
    have hplan := hrefreshed.plan
    simp only at hplan
    subst hplan
    refine ⟨⟨hconverged.ok.built, hconverged.ok.tags, hrefreshed.sync⟩, ExtTreeMap.nodup_keys,
      fun tag htag => hrefreshed.nodes tag (ExtTreeMap.mem_keys.1 htag),
      fun tag htag => hrefreshed.found tag (ExtTreeMap.mem_keys.1 htag), hconverged.onFile,
      fun core hcore tag htag => ?_, fun core hcore tag htag entry change hentry hchange hfull => ?_⟩
    · exact settled_of_sameUsers (hrefreshed.same tag fun hmem => htag (ExtTreeMap.mem_keys.2 hmem))
        (hconverged.users core hcore tag)
    · exact deliverable_of_leads (hconverged.users core hcore tag) fun old hold =>
        hrefreshed.leads tag (ExtTreeMap.mem_keys.1 htag) old entry change hold hentry hchange hfull
  have hexit := hpending.afterExit coreExits
  simp only [← hworld] at hexit
  exact hexit

/-! ## The deltas -/

/-- A changed tag stands for one inbound of the plan at most, and so it does in a plan of fewer nodes. -/
theorem Pending.tagOk {env : ControlEnv ν σ} {loop : RuntimeLoop ν σ} {tags : List Text} (h : Pending env loop tags)
    {plan : RuntimeBootstrapPlan} (hbuilt : ∃ users, BuiltWith users plan)
    (hsub : plan.nodeInfos.Sublist loop.plan.nodeInfos) {corePlan : CorePlan} (hplan : plan.corePlan = some corePlan)
    {tag : Text} (htag : tag ∈ tags) : TagOk corePlan tag := by
  obtain ⟨users, hbuilt⟩ := hbuilt
  obtain ⟨node, hnode, rfl⟩ := List.mem_map.1 (h.nodes tag htag)
  have hnodup := hbuilt.nodup_tags ((hsub.map _).nodup h.ok.tags.nodup)
  rw [hplan] at hnodup
  refine ⟨hnodup, fun inbound hinbound => ?_⟩
  obtain ⟨other, hother, -, hof⟩ := hbuilt.planned.inboundOf inbound (by rw [hplan]; exact hinbound)
  rw [hof.tag]
  exact h.ok.tags.apart node hnode other (hsub.subset hother)

/-- What the attempt comes to: it is not made, or it ends as the delta loop does. -/
theorem deltaOutcome_cases {env : ControlEnv ν σ} {answers : TickAnswers} {loop : RuntimeLoop ν σ} {tags : List Text}
    (hpending : Pending env loop tags) (hrefusals : ∀ tag ∈ tags, RefusalsOk answers loop.plan tag)
    {outcome : RuntimeUserDeltaApplyOutcome} {world : ControlWorld ν σ}
    (h : deltaOutcome answers tags loop = .ok (outcome, world)) :
    (outcome = .rebuild ∧ world = loop.world ∧ triesDeltas answers loop tags = false) ∨
      ∃ corePlan core core', loop.plan.corePlan = some corePlan ∧ loop.world.core = some core ∧
        triesDeltas answers loop tags = true ∧ world = { loop.world with core := some core' } ∧
        Delivery answers loop.plan corePlan loop.userSync tags core core' outcome := by
  unfold deltaOutcome tryApplyKeliCoreRsUserDeltas at h
  cases hplan : loop.plan.corePlan with
  | none =>
    simp only [hplan] at h
    cases h
    exact .inl ⟨rfl, rfl, by simp [triesDeltas, hplan]⟩
  | some corePlan =>
    cases hstatus : coreStatus answers.running loop.world with
    | error error => simp [hplan, hstatus] at h
    | ok running =>
      cases running with
      | false =>
        have hnone : loop.world.core.isSome = false := by
          unfold coreStatus at hstatus
          split at hstatus
          · cases hstatus
          · exact Except.ok.inj hstatus
        simp only [hplan, hstatus] at h
        cases h
        exact .inl ⟨rfl, rfl, by simp [triesDeltas, hnone]⟩
      | true =>
        obtain ⟨core, hcore⟩ := Option.isSome_iff_exists.1 (isSome_of_coreStatus hstatus).2
        simp only [hplan, hstatus] at h
        split at h
        · rename_i hnot
          cases h
          refine .inl ⟨rfl, rfl, ?_⟩
          rw [Bool.or_eq_true] at hnot
          rcases hnot with hnot | hnot
          · rw [Bool.not_eq_true'] at hnot
            simp [triesDeltas, hnot]
          · simp [triesDeltas, Option.isNone_eq_false_iff.2 hnot]
        · rename_i htries
          simp only [Bool.or_eq_true, not_or, Bool.not_eq_true', Bool.not_eq_false, Bool.not_eq_true,
            Option.isSome_eq_false_iff] at htries
          obtain ⟨hall, hclient⟩ := htries
          have hready : ∀ tag ∈ tags, TagReady answers loop.plan corePlan loop.userSync core tag := by
            intro tag htag
            obtain ⟨planned, content, hplanned, -, -, hkeys⟩ := hpending.onFile core hcore
            rw [hplan, Option.some.injEq] at hplanned
            subst hplanned
            obtain ⟨entry, hentry⟩ := Option.isSome_iff_exists.1 (hpending.entries tag htag)
            have hdelta := List.all_eq_true.1 hall tag htag
            simp only [hasDelta, hentry, Option.bind_some, Option.any_eq_true] at hdelta
            obtain ⟨change, hchange, hfull⟩ := hdelta
            rw [Bool.not_eq_true'] at hfull
            exact ⟨hpending.tagOk hpending.ok.built (List.Sublist.refl _) hplan htag, (hkeys tag).2,
              ⟨entry, change, hentry, hchange,
                hpending.deliverable core hcore tag htag entry change hentry hchange hfull⟩, hrefusals tag htag⟩
          obtain ⟨outcome', core', hrun, hdelivery⟩ := deltaLoop_spec hpending.nodup hcore hready
          rw [hrun] at h
          cases h
          exact .inr ⟨corePlan, core, core', rfl, hcore, by simp [triesDeltas, hcore, hplan, hall, hclient], rfl,
            hdelivery⟩

/-- A rebuild was to be expected. -/
theorem mayRebuild_of_outcome {env : ControlEnv ν σ} {answers : TickAnswers} {loop : RuntimeLoop ν σ} {tags : List Text}
    (hpending : Pending env loop tags) (hrefusals : ∀ tag ∈ tags, RefusalsOk answers loop.plan tag)
    (hne : tags ≠ []) {world : ControlWorld ν σ} (h : deltaOutcome answers tags loop = .ok (.rebuild, world)) :
    mayRebuild answers loop tags = true := by
  have hsome : (!tags.isEmpty) = true := by simpa using hne
  rw [mayRebuild, hsome, Bool.true_and, Bool.or_eq_true]
  rcases deltaOutcome_cases hpending hrefusals h with ⟨-, -, hnot⟩ | ⟨corePlan, core, core', hplan, -, -, -, hdelivery⟩
  · exact .inl (by simp [hnot])
  · obtain ⟨tag, htag, hwhy⟩ := hdelivery.rebuild rfl
    refine .inr (List.any_eq_true.2 ⟨tag, htag, ?_⟩)
    have hiff : tag ∈ plannedTags loop.plan ↔ plansTag corePlan tag := by
      rw [plannedTags, hplan]
      rfl
    by_cases hplans : plansTag corePlan tag
    · rw [if_pos hplans] at hwhy
      rw [if_pos (hiff.2 hplans), hwhy]
    · rw [if_neg hplans] at hwhy
      rw [if_neg fun hmem => hplans (hiff.1 hmem), hwhy]
      rfl

/-! ## What becomes of the changes -/

/-- The world after the attempt: the files are as they were, and in the core only the tags changed. -/
structure AfterDeltas (tags : List Text) (before after : ControlWorld ν σ) : Prop where
  configFile : after.configFile = before.configFile
  running : after.core.isSome = before.core.isSome
  only : ∀ core', after.core = some core' → ∃ core, before.core = some core ∧ OnlyTags tags core core'

/-- What the first part of a tick can do. -/
inductive ChangesStep (validate : InboundPlan → Except Text Unit) (answers : TickAnswers) (reportToPanel : Bool)
    (users : UsersByNodeTag) (loop : RuntimeLoop ν σ) : UserChanges → RuntimeLoop ν σ → Prop
  | none (h : users.keys = []) :
      ChangesStep validate answers reportToPanel users loop (.goOn false []) loop
  | applied {corePlan : CorePlan} {core core' : RunningCore ν} (hplan : loop.plan.corePlan = some corePlan)
      (hcore : loop.world.core = some core)
      (hdelivery : Delivery answers loop.plan corePlan loop.userSync users.keys core core' .applied) :
      ChangesStep validate answers reportToPanel users loop (if reportToPanel then .goOn true [] else .finished)
        { loop with
          world := { loop.world with core := some core' }
          userIdLookup := syncRuntimeUserIdLookupFromState loop.userSync users.keys loop.userIdLookup
          userSync := clearLastChanges users.keys loop.userSync }
  | deferred {corePlan : CorePlan} {core core' : RunningCore ν} (hplan : loop.plan.corePlan = some corePlan)
      (hcore : loop.world.core = some core) (htries : triesDeltas answers loop users.keys = true)
      (hdelivery : Delivery answers loop.plan corePlan loop.userSync users.keys core core' .deferred) :
      ChangesStep validate answers reportToPanel users loop (if reportToPanel then .goOn false [] else .finished)
        { loop with world := { loop.world with core := some core' } }
  | rebuilt {world : ControlWorld ν σ} {plan : RuntimeBootstrapPlan} (hne : users.keys ≠ [])
      (hmay : mayRebuild answers loop users.keys = true) (hworld : AfterDeltas users.keys loop.world world)
      (hplan : rebuildRuntimePlanWithUsers validate loop.plan
        (userSyncUsersForRuntimeRebuild loop.plan loop.userSync users.keys users) = .ok plan) :
      ChangesStep validate answers reportToPanel users loop (.goOn false users.keys)
        { loop with world, plan, userIdLookup := runtimeUserIdLookupFromPlan plan }

/-- **The first part of a tick**, where the calls that are refused do not defer. -/
theorem applyUserChanges_cases {validate : InboundPlan → Except Text Unit} {env : ControlEnv ν σ}
    {answers : TickAnswers} {reportToPanel : Bool} {users : UsersByNodeTag} {loop after : RuntimeLoop ν σ}
    {changes : UserChanges} (hpending : Pending env loop users.keys)
    (hrefusals : ∀ tag ∈ users.keys, RefusalsOk answers loop.plan tag)
    (h : applyUserChanges validate answers reportToPanel users loop = (.ok changes, after)) :
    ChangesStep validate answers reportToPanel users loop changes after := by
  unfold applyUserChanges at h
  split at h
  · rename_i hempty
    cases h
    exact .none (List.isEmpty_iff.1 (by rw [ExtTreeMap.isEmpty_keys]; exact hempty))
  · rename_i hsome
    have hne : users.keys ≠ [] := fun hnil => hsome (by rw [← ExtTreeMap.isEmpty_keys, hnil]; rfl)
    simp only at h
    cases houtcome : deltaOutcome answers users.keys loop with
    | error error => rw [houtcome] at h; cases h
    | ok found =>
      obtain ⟨outcome, world⟩ := found
      rw [houtcome] at h
      rcases deltaOutcome_cases hpending hrefusals houtcome with
        ⟨rfl, rfl, -⟩ | ⟨corePlan, core, core', hplan, hcore, htries, rfl, hdelivery⟩
      · simp only [RuntimeLoop.rebuilt] at h
        cases hbuild : rebuildRuntimePlanWithUsers validate loop.plan
            (userSyncUsersForRuntimeRebuild loop.plan loop.userSync users.keys users) with
        | error error => simp [hbuild, Except.map] at h
        | ok plan =>
          simp only [hbuild, Except.map] at h
          cases h
          exact .rebuilt hne (mayRebuild_of_outcome hpending hrefusals hne houtcome)
            ⟨rfl, rfl, fun core' hcore' => ⟨core', hcore', OnlyTags.refl _ _⟩⟩ hbuild
      · cases outcome with
        | applied =>
          cases h
          exact .applied hplan hcore hdelivery
        | deferred =>
          cases h
          exact .deferred hplan hcore htries hdelivery
        | rebuild =>
          simp only [RuntimeLoop.rebuilt] at h
          cases hbuild : rebuildRuntimePlanWithUsers validate loop.plan
              (userSyncUsersForRuntimeRebuild loop.plan loop.userSync users.keys users) with
          | error error => simp [hbuild, Except.map] at h
          | ok plan =>
            simp only [hbuild, Except.map] at h
            cases h
            refine .rebuilt hne (mayRebuild_of_outcome hpending hrefusals hne houtcome)
              ⟨rfl, by rw [hcore]; rfl, fun core'' hcore'' => ?_⟩ hbuild
            cases hcore''
            exact ⟨core, hcore, hdelivery.only⟩

end

end KeliNode
