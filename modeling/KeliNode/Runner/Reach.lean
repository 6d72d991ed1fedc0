import KeliNode.Runner.Attempt
import KeliNode.Runner.Converge
import KeliNode.Runtime.Apart

/-!
# What a rebuild brings to the core

Where the deltas are not tried, or one of them is refused, the plan is rebuilt with the changes and applied.  The
changes reach the core that way if the rebuild keeps the changed nodes, their listeners are not taken, and a core
that goes on running is sent their full lists or a new configuration (`RebuildReaches`).  `apply_reaches` says that
the core then holds the users of every changed tag.
-/

namespace KeliNode

open Lib Std

/-! ## Rebuilt plans -/

/-- Some user has a uuid: only such users are planned. -/
def hasPlannedUsers (users : List UserInfo) : Bool := users.any fun user => !(trim user.uuid).isEmpty

section

variable {sync : RuntimeUserSync} {tag : Text}

/-- The plan lists the users for the tag: its inbounds hold them, and its nodes have an inbound where there are
any. -/
structure ListsUsers (plan : RuntimeBootstrapPlan) (tag : Text) (users : List UserInfo) : Prop where
  held : ∀ inbound ∈ inboundsOf plan.corePlan, inbound.tag = tag →
    ∃ node ∈ plan.nodeInfos, node.tag = tag ∧ inbound.users = plannedUsers node users
  there : ∀ node ∈ plan.nodeInfos, node.tag = tag → hasPlannedUsers users = true →
    ∃ inbound ∈ inboundsOf plan.corePlan, inbound.tag = tag

theorem lists_of_built {users : UsersByNodeTag} {plan : RuntimeBootstrapPlan} (hbuilt : BuiltWith users plan)
    {own : List UserInfo} (hown : users.getD tag [] = own) : ListsUsers plan tag own := by
  constructor
  · rintro inbound hinbound rfl
    obtain ⟨node, hnode, -, hof⟩ := hbuilt.planned.inboundOf inbound hinbound
    exact ⟨node, hnode, hof.tag.symm, by rw [hof.users, ← hof.tag, hown]⟩
  · rintro node hnode rfl hany
    refine hbuilt.planned.complete node hnode ?_
    have hsome : nodeHasKeliCoreRsUsers node.tag users = hasPlannedUsers own := by
      rw [nodeHasKeliCoreRsUsers, hown]
      rfl
    rw [plansNode, hsome, hany, Bool.or_true]

/-- Where the inbounds of a tag have the same latest users, these are the tag's. -/
theorem foldl_latest_of_same {own : List UserInfo} {inbounds : List InboundPlan}
    (hsame : ∀ inbound ∈ inbounds, inbound.tag = tag → latestUsersForInbound sync inbound = own)
    (hmem : tag ∈ inbounds.map (·.tag)) {users : UsersByNodeTag}
    (hstart : users.getD tag [] = [] ∨ users.getD tag [] = own) :
    (inbounds.foldl (fun users inbound =>
      let latest := latestUsersForInbound sync inbound
      if latest.isEmpty then users else users.insert inbound.tag latest) users).getD tag [] = own := by
  induction inbounds generalizing users with
  | nil => cases hmem
  | cons head inbounds ih =>
    have ih := ih fun inbound hinbound => hsame inbound (List.mem_cons_of_mem head hinbound)
    rw [List.foldl_cons]
    by_cases htag : head.tag = tag
    · have hnow : (if (latestUsersForInbound sync head).isEmpty then users
          else users.insert head.tag (latestUsersForInbound sync head)).getD tag [] = own := by
        rw [hsame head List.mem_cons_self htag]
        split
        · rename_i hempty
          rw [List.isEmpty_iff.1 hempty] at hstart ⊢
          exact hstart.elim id id
        · rw [getD_insert, if_pos htag]
      by_cases hlater : tag ∈ inbounds.map (·.tag)
      · exact ih hlater (.inr hnow)
      · exact (foldl_latest_of_not_mem hlater _).trans hnow
    · have hlater : tag ∈ inbounds.map (·.tag) :=
        (List.mem_cons.1 hmem).resolve_left fun heq => htag heq.symm
      refine ih hlater ?_
      simp only
      split
      · exact hstart
      · rw [getD_insert, if_neg htag]
        exact hstart

/-- A restart rebuilds a plan that lists the users of an entry with these users again. -/
theorem lists_of_restart {validate : InboundPlan → Except Text Unit} {plan restarted : RuntimeBootstrapPlan}
    {entry : RuntimeUserSyncEntry} (hentry : sync[tag]? = some entry) (hlists : ListsUsers plan tag entry.state.users)
    (h : rebuildRuntimePlanWithUsers validate plan (latestUsersByNodeTagForCorePlan plan sync) = .ok restarted) :
    ListsUsers restarted tag entry.state.users := by
  obtain ⟨hbuilt, -, hsub⟩ := rebuild_builtWith h
  by_cases hmem : tag ∈ (inboundsOf plan.corePlan).map (·.tag)
  · refine lists_of_built hbuilt ?_
    unfold latestUsersByNodeTagForCorePlan
    cases hplan : plan.corePlan with
    | none =>
      rw [hplan] at hmem
      cases hmem
    | some corePlan =>
      rw [hplan] at hmem
      refine foldl_latest_of_same (fun inbound hinbound htag => ?_) hmem (.inl (by simp))
      rw [latestUsersForInbound, htag, hentry]
      simp only
      split
      · rename_i hempty
        obtain ⟨node, -, -, husers⟩ := hlists.held inbound (by rw [hplan]; exact hinbound) htag
        rw [List.isEmpty_iff.1 hempty] at husers ⊢
        rw [inboundUserInfos, husers]
        rfl
      · rfl
  · -- without an inbound the nodes of the tag have no users to lose
    have hnone : ∀ node ∈ restarted.nodeInfos, node.tag = tag →
        entry.state.users.filter (fun user => !(trim user.uuid).isEmpty) = [] := by
      intro node hnode htag
      rw [List.filter_eq_nil_iff]
      intro user huser hreal
      obtain ⟨inbound, hinbound, heq⟩ := hlists.there node (hsub.subset hnode) htag
        (List.any_eq_true.2 ⟨user, huser, hreal⟩)
      exact hmem (heq ▸ List.mem_map_of_mem hinbound)
    constructor
    · rintro inbound hinbound rfl
      obtain ⟨node, hnode, -, hof⟩ := hbuilt.planned.inboundOf inbound hinbound
      refine ⟨node, hnode, hof.tag.symm, ?_⟩
      rw [hof.users, ← hof.tag, latestUsers_of_not_mem hmem, plannedUsers, plannedUsers, inboundUsers, inboundUsers,
        hnone node hnode hof.tag.symm]
      rfl
    · intro node hnode htag hany
      obtain ⟨user, huser, hreal⟩ := List.any_eq_true.1 hany
      have hfound : user ∈ entry.state.users.filter fun user => !(trim user.uuid).isEmpty :=
        List.mem_filter.2 ⟨huser, hreal⟩
      rw [hnone node hnode htag] at hfound
      cases hfound

end

/-! ## What the core holds -/

section

variable {ν : Type} (plan : RuntimeBootstrapPlan) (tag : Text) (users : List UserInfo)

/-- The inbounds of a configuration list the users for the tag, as the plan gives them to its node. -/
structure ConfigLists (inbounds : List (Text × List CoreUser)) : Prop where
  held : ∀ inbound ∈ inbounds, inbound.1 = tag → ∃ node ∈ plan.nodeInfos, node.tag = tag ∧
    inbound.2 = (plannedUsers node users).map renderKeliCoreRsUser
  there : hasPlannedUsers users = true → tag ∈ inbounds.map (·.1)

instance (inbounds : List (Text × List CoreUser)) : Decidable (ConfigLists plan tag users inbounds) :=
  decidable_of_iff
    ((∀ inbound ∈ inbounds, inbound.1 = tag → ∃ node ∈ plan.nodeInfos, node.tag = tag ∧
        inbound.2 = (plannedUsers node users).map renderKeliCoreRsUser) ∧
      (hasPlannedUsers users = true → tag ∈ inbounds.map (·.1)))
    ⟨fun h => ⟨h.1, h.2⟩, fun h => ⟨h.1, h.2⟩⟩

/-- An inbound of the core holds the users: as a configuration brings them, or as their full list does. -/
def HoldsUsers (inbound : CoreInbound) : Prop :=
  (∃ node ∈ plan.nodeInfos, node.tag = tag ∧
      inbound.users = coreUsersOf ((plannedUsers node users).map renderKeliCoreRsUser)) ∨
    inbound.users = coreUsersOf (users.map (keliCoreUserDeltaUser (keliCoreDeviceLimitFallbackForNode plan tag)))

/-- The users have reached the core: its inbound of the tag holds them, and it has one where there are any. -/
structure UsersReached (core : Option (RunningCore ν)) : Prop where
  held : ∀ running, core = some running → ∀ inbound, running.inbounds[tag]? = some inbound →
    HoldsUsers plan tag users inbound
  there : hasPlannedUsers users = true → ∃ running, core = some running ∧ tag ∈ running.inbounds

instance (inbound : CoreInbound) : Decidable (HoldsUsers plan tag users inbound) :=
  inferInstanceAs (Decidable (_ ∨ _))

instance (core : Option (RunningCore ν)) : Decidable (UsersReached plan tag users core) :=
  decidable_of_iff
    ((∀ running ∈ core, ∀ inbound ∈ running.inbounds[tag]?, HoldsUsers plan tag users inbound) ∧
      (hasPlannedUsers users = true → core.any (fun running => tag ∈ running.inbounds) = true))
    (by
      simp only [Option.any_eq_true, decide_eq_true_eq]
      exact ⟨fun h => ⟨h.1, h.2⟩, fun h => ⟨h.1, h.2⟩⟩)

variable {plan tag users}

theorem ConfigLists.mono {plan' : RuntimeBootstrapPlan} {inbounds : List (Text × List CoreUser)}
    (hnodes : plan.nodeInfos ⊆ plan'.nodeInfos) (h : ConfigLists plan tag users inbounds) :
    ConfigLists plan' tag users inbounds := by
  refine ⟨fun inbound hinbound htag => ?_, h.there⟩
  obtain ⟨node, hnode, hsame, husers⟩ := h.held inbound hinbound htag
  exact ⟨node, hnodes hnode, hsame, husers⟩

/-- A core that loads a configuration holds what it lists. -/
theorem ConfigLists.reached {content : CoreConfig ν} (h : ConfigLists plan tag users content.inbounds)
    (revision : Text → Int) : UsersReached plan tag users (some (applyConfig revision content)) := by
  refine ⟨fun running hrunning inbound hinbound => ?_, fun hsome => ⟨_, rfl, mem_applyConfig.2 (h.there hsome)⟩⟩
  cases hrunning
  rw [applyConfig_get, Option.map_eq_some_iff] at hinbound
  obtain ⟨found, hlast, rfl⟩ := hinbound
  obtain ⟨hmem, htag⟩ := lastWith_eq_some hlast
  obtain ⟨node, hnode, hsame, husers⟩ := h.held found hmem htag
  exact .inl ⟨node, hnode, hsame, by rw [husers]⟩

end

/-! ## The condition -/

section

variable {ν σ : Type} (env : ControlEnv ν σ) (answers : TickAnswers) (loop : RuntimeLoop ν σ) (tags : List Text)

/-- The full lists of the tags are taken by a core that goes on running: no call is refused, and the core has the
inbounds that its file has for them. -/
structure ListsTaken : Prop where
  client : answers.baselineClient = none
  calls : ∀ tag ∈ tags, answers.baseline tag = none
  inbounds : ∀ core ∈ loop.world.core, ∀ content ∈ loop.world.configFile (coreConfigPath loop.plan.resolved),
    ∀ tag ∈ tags, tag ∈ core.inbounds ↔ tag ∈ content.inbounds.map (·.1)

instance : Decidable (ListsTaken answers loop tags) :=
  decidable_of_iff (answers.baselineClient = none ∧ (∀ tag ∈ tags, answers.baseline tag = none) ∧
      ∀ core ∈ loop.world.core, ∀ content ∈ loop.world.configFile (coreConfigPath loop.plan.resolved),
        ∀ tag ∈ tags, tag ∈ core.inbounds ↔ tag ∈ content.inbounds.map (·.1))
    ⟨fun h => ⟨h.1, h.2.1, h.2.2⟩, fun h => ⟨h.1, h.2, h.3⟩⟩

def ApplyAnswer.isApplied : ApplyAnswer → Bool
  | .applied _ => true
  | _ => false

/-- The file does not list the latest users of all the tags, and the core is not asked to keep its users: it loads
the new configuration. -/
structure FileBehind : Prop where
  routes : answers.control.routes.isApplied = false
  file : ∀ content ∈ loop.world.configFile (coreConfigPath loop.plan.resolved), ∃ tag ∈ tags,
    ∃ entry ∈ loop.userSync[tag]?, ¬ ConfigLists loop.plan tag entry.state.users content.inbounds

instance : Decidable (FileBehind answers loop tags) :=
  decidable_of_iff (answers.control.routes.isApplied = false ∧
      ∀ content ∈ loop.world.configFile (coreConfigPath loop.plan.resolved), ∃ tag ∈ tags,
        loop.userSync[tag]?.any (fun entry => ¬ ConfigLists loop.plan tag entry.state.users content.inbounds) = true)
    (by
      simp only [Option.any_eq_true, decide_eq_true_eq]
      exact ⟨fun h => ⟨h.1, h.2⟩, fun h => ⟨h.1, h.2⟩⟩)

/-- What a rebuild relies on to bring the users of the changed tags to the core. -/
structure RebuildReaches : Prop where
  nodes : NodeTagsOk loop.plan.nodeInfos
  /-- The rebuild drops no changed node for its listener. -/
  apart : loop.plan.resolved.continueOnError = true → ListenersApart tags loop.plan.nodeInfos
  /-- A core that runs has its own listeners taken, and they are checked where its status cannot be read. -/
  status : loop.plan.resolved.continueOnError = true → loop.world.core.isSome = true →
    answers.control.filterStatus = none
  free : loop.plan.resolved.continueOnError = true → loop.world.core.isSome = false →
    listenersFree env answers.control (loop.plan.nodeInfos.filter (·.tag ∈ tags)) = true
  lists : loop.world.core.isSome = true → ListsTaken answers loop tags ∨ FileBehind answers loop tags

instance : Decidable (RebuildReaches env answers loop tags) :=
  decidable_of_iff (NodeTagsOk loop.plan.nodeInfos ∧
      (loop.plan.resolved.continueOnError = true → ListenersApart tags loop.plan.nodeInfos) ∧
      (loop.plan.resolved.continueOnError = true → loop.world.core.isSome = true →
        answers.control.filterStatus = none) ∧
      (loop.plan.resolved.continueOnError = true → loop.world.core.isSome = false →
        listenersFree env answers.control (loop.plan.nodeInfos.filter (·.tag ∈ tags)) = true) ∧
      (loop.world.core.isSome = true → ListsTaken answers loop tags ∨ FileBehind answers loop tags))
    ⟨fun ⟨a, b, c, d, e⟩ => ⟨a, b, c, d, e⟩, fun h => ⟨h.1, h.2, h.3, h.4, h.5⟩⟩

end

/-! ## The attempt before it -/

section

variable {ν σ : Type}

/-- Calls with deltas neither start nor stop the core, and it keeps its inbounds. -/
structure KeysKept (before after : ControlWorld ν σ) : Prop where
  configFile : after.configFile = before.configFile
  running : after.core.isSome = before.core.isSome
  keys : ∀ core', after.core = some core' → ∃ core, before.core = some core ∧
    ∀ tag, tag ∈ core'.inbounds ↔ tag ∈ core.inbounds

theorem KeysKept.refl (world : ControlWorld ν σ) : KeysKept world world :=
  ⟨rfl, rfl, fun core hcore => ⟨core, hcore, fun _ => Iff.rfl⟩⟩

theorem KeysKept.trans {first second third : ControlWorld ν σ} (h : KeysKept first second)
    (h' : KeysKept second third) : KeysKept first third := by
  refine ⟨h'.configFile.trans h.configFile, h'.running.trans h.running, fun core hcore => ?_⟩
  obtain ⟨mid, hmid, hkeys'⟩ := h'.keys core hcore
  obtain ⟨old, hold, hkeys⟩ := h.keys mid hmid
  exact ⟨old, hold, fun tag => (hkeys' tag).trans (hkeys tag)⟩

theorem sendUserDelta_keysKept (refused : Option Text) (tag : Text) (delta : KeliCoreUserDelta)
    (world : ControlWorld ν σ) : KeysKept world (sendUserDelta refused tag delta world).2 := by
  cases hcore : world.core with
  | none =>
    have hsame : (sendUserDelta refused tag delta world).2 = world := by
      cases refused <;> simp [sendUserDelta, hcore]
    rw [hsame]
    exact KeysKept.refl world
  | some core =>
    cases hinbound : core.inbounds[tag]? with
    | none =>
      have hsame : (sendUserDelta refused tag delta world).2 = world := by
        cases refused <;> simp [sendUserDelta, hcore, RunningCore.applyUserDelta, hinbound]
      rw [hsame]
      exact KeysKept.refl world
    | some inbound =>
      rcases sendUserDelta_cases hcore hinbound refused delta with
        ⟨error, -, hsend⟩ | ⟨-, error, -, hsend⟩ | ⟨-, after, -, hsend⟩
      · rw [hsend]
        exact KeysKept.refl world
      · rw [hsend]
        exact KeysKept.refl world
      · rw [hsend]
        have hmem : tag ∈ core.inbounds := ExtTreeMap.mem_iff_isSome_getElem?.2 (by rw [hinbound]; rfl)
        refine ⟨rfl, by rw [hcore]; rfl, fun core' hcore' => ?_⟩
        cases hcore'
        exact ⟨core, hcore, RunningCore.mem_set hmem after⟩

section

variable {answers : TickAnswers}

theorem deltaOutcome_keysKept {loop : RuntimeLoop ν σ} {tags : List Text} {outcome : RuntimeUserDeltaApplyOutcome}
    {world : ControlWorld ν σ} (h : deltaOutcome answers tags loop = .ok (outcome, world)) :
    KeysKept loop.world world := by
  refine deltaOutcome_invariant (fun corePlan _ _ tag _ mid hmid => ?_) (KeysKept.refl _) h
  refine applyUserDeltasToNode_invariant (fun entry change _ target _ mid hmid => ?_) hmid
  exact applyUserDeltaToTarget_invariant (hmid.trans (sendUserDelta_keysKept ..))
    (hmid.trans (sendUserDelta_keysKept ..)) hmid

end

end

/-! ## The plan that is applied -/

section

variable {ν σ : Type} {env : ControlEnv ν σ} {answers : ControlAnswers} {options : RuntimeControlOptions}
  {plan reportPlan : RuntimeBootstrapPlan} {world : ControlWorld ν σ}

/-- The plan that is reported on is the plan without some tags: each of an inbound whose listener was found taken,
with errors that do not stop the agent and no core that is known to run. -/
structure SkipsTaken (env : ControlEnv ν σ) (answers : ControlAnswers) (plan reportPlan : RuntimeBootstrapPlan)
    (world : ControlWorld ν σ) (skipped : List Text) : Prop where
  inbounds : inboundsOf reportPlan.corePlan =
    (inboundsOf plan.corePlan).filter fun inbound => !skipped.contains inbound.tag
  path : ∀ corePlan, reportPlan.corePlan = some corePlan → ∃ planned, plan.corePlan = some planned ∧
    corePlan.configPath = planned.configPath
  taken : ∀ tag ∈ skipped, plan.resolved.continueOnError = true ∧
    (coreStatus answers.filterStatus world).toOption.getD false = false ∧
    ∃ inbound ∈ inboundsOf plan.corePlan, inbound.tag = tag ∧
      (firstUnavailableListenerError env answers inbound).isSome = true

theorem filterUnavailable_skips {corePlan : CorePlan} (hplan : plan.corePlan = some corePlan)
    {found : CorePlan × RuntimeBootstrapPlan}
    (h : filterUnavailableKeliCoreRsListeners env answers corePlan plan world = .ok found) :
    ∃ skipped : List Text, found.1.inbounds = corePlan.inbounds.filter (fun inbound => !skipped.contains inbound.tag) ∧
      found.1.configPath = corePlan.configPath ∧
      ∀ tag ∈ skipped, plan.resolved.continueOnError = true ∧
        (coreStatus answers.filterStatus world).toOption.getD false = false ∧
        ∃ inbound ∈ inboundsOf plan.corePlan, inbound.tag = tag ∧
          (firstUnavailableListenerError env answers inbound).isSome = true := by
  have hall : corePlan.inbounds = corePlan.inbounds.filter fun inbound => !([] : List Text).contains inbound.tag :=
    (List.filter_eq_self.2 fun _ _ => rfl).symm
  unfold filterUnavailableKeliCoreRsListeners at h
  split at h
  · cases h
    exact ⟨[], hall, rfl, fun _ h => by cases h⟩
  · rename_i hcontinue
    split at h
    · cases h
    · split at h
      · cases h
        exact ⟨[], hall, rfl, fun _ h => by cases h⟩
      · rename_i hstatus
        simp only at h
        split at h
        · cases h
          exact ⟨[], hall, rfl, fun _ h => by cases h⟩
        · cases h
          refine ⟨_, rfl, rfl, fun tag htag => ⟨by simpa using hcontinue, by simpa using hstatus, ?_⟩⟩
          obtain ⟨⟨_, error⟩, hmem, rfl⟩ := List.mem_map.1 htag
          obtain ⟨inbound, hinbound, herror⟩ := List.mem_filterMap.1 hmem
          rw [Option.map_eq_some_iff] at herror
          obtain ⟨error, hsome, heq⟩ := herror
          cases heq
          exact ⟨inbound, by rw [hplan]; exact hinbound, rfl, by rw [hsome]; rfl⟩

theorem reportPlanFor_skips (hstart : options.startCore = true)
    (h : reportPlanFor env answers plan options world = .ok reportPlan) :
    ∃ skipped, SkipsTaken env answers plan reportPlan world skipped := by
  unfold reportPlanFor at h
  cases hplan : plan.corePlan with
  | none =>
    simp only [hplan] at h
    cases h
    refine ⟨[], ?_, ?_, fun _ h => by cases h⟩
    · rw [hplan]
      rfl
    · intro corePlan hsome
      rw [hplan] at hsome
      cases hsome
  | some corePlan =>
    simp only [hplan, hstart, if_true] at h
    obtain ⟨found, hfound, h⟩ := bind_eq_ok.1 h
    cases h
    obtain ⟨skipped, hinbounds, hpath, htaken⟩ := filterUnavailable_skips hplan hfound
    refine ⟨skipped, ?_, ?_, htaken⟩
    · rw [hplan, inboundsOf, inboundsOf, Option.elim_some, ← hinbounds]
      simp only
      split
      · rename_i hempty
        exact (List.isEmpty_iff.1 hempty).symm
      · rfl
    · intro applied hsome
      simp only at hsome
      split at hsome
      · cases hsome
      · cases hsome
        exact ⟨corePlan, hplan, hpath⟩

end

/-! ## The loop that is rebuilt -/

section

variable {ν σ : Type} {validate : InboundPlan → Except Text Unit} {env : ControlEnv ν σ} {answers : TickAnswers}
  {users : UsersByNodeTag} {loop ready : RuntimeLoop ν σ} {tags : List Text}

variable (loop ready tags) in
/-- The loop with the plan rebuilt for changed tags, as it is about to be applied. -/
structure RebuiltLoop : Prop where
  built : ∃ users, BuiltWith users ready.plan
  resolved : ready.plan.resolved = loop.plan.resolved
  nodes : ready.plan.nodeInfos.Sublist loop.plan.nodeInfos
  kept : ∀ node ∈ loop.plan.nodeInfos, node.tag ∈ tags → node ∈ ready.plan.nodeInfos
  userSync : ready.userSync = loop.userSync
  lists : ∀ tag ∈ tags, ∃ entry, loop.userSync[tag]? = some entry ∧ ListsUsers ready.plan tag entry.state.users
  world : KeysKept loop.world ready.world

/-- A rebuild, and the second one that goes before a start. -/
theorem rebuilt_ready
    (hapart : loop.plan.resolved.continueOnError = true → ListenersApart users.keys loop.plan.nodeInfos)
    (hentries : ∀ tag ∈ users.keys, loop.userSync[tag]?.isSome = true) {world : ControlWorld ν σ}
    (hworld : KeysKept loop.world world) {mid : RuntimeLoop ν σ}
    (hrebuilt : RuntimeLoop.rebuilt validate { loop with world }
      (userSyncUsersForRuntimeRebuild loop.plan loop.userSync users.keys users) = .ok mid)
    (hready : ensureKeliCoreRsRestartUsesLatestUsers validate answers mid = .ok ready) :
    RebuiltLoop loop ready users.keys := by
  unfold RuntimeLoop.rebuilt at hrebuilt
  obtain ⟨plan, hplan, rfl⟩ := map_eq_ok.1 hrebuilt
  obtain ⟨hbuilt, hresolved, hsub⟩ := rebuild_builtWith hplan
  have hlists : ∀ tag ∈ users.keys, ∃ entry, loop.userSync[tag]? = some entry ∧
      ListsUsers plan tag entry.state.users := by
    intro tag htag
    obtain ⟨entry, hentry⟩ := Option.isSome_iff_exists.1 (hentries tag htag)
    exact ⟨entry, hentry, lists_of_built hbuilt (rebuildUsers_of_changed htag hentry users)⟩
  have hkept : ∀ node ∈ loop.plan.nodeInfos, node.tag ∈ users.keys → node ∈ plan.nodeInfos := by
    intro node hnode htag
    exact rebuild_keeps hapart hplan hnode htag
  have hfirst : ∀ lookup, RebuiltLoop loop { loop with world, plan, userIdLookup := lookup } users.keys := fun _ =>
    ⟨⟨_, hbuilt⟩, hresolved, hsub, hkept, rfl, hlists, hworld⟩
  cases ensureRestart_cases hready with
  | running => exact hfirst _
  | unplanned => exact hfirst _
  | noUsers => exact hfirst _
  | @rebuilt corePlan restarted hcore hcorePlan hrestarted =>
    obtain ⟨hbuilt', hresolved', hsub'⟩ := rebuild_builtWith hrestarted
    refine ⟨⟨_, hbuilt'⟩, hresolved'.trans hresolved, hsub'.trans hsub, fun node hnode htag => ?_, rfl,
      fun tag htag => ?_, hworld⟩
    · refine rebuild_keeps (fun hcontinue => ?_) hrestarted (hkept node hnode htag) htag
      rw [hresolved] at hcontinue
      exact (hapart hcontinue).sublist hsub
    · obtain ⟨entry, hentry, hlisted⟩ := hlists tag htag
      exact ⟨entry, hentry, lists_of_restart hentry hlisted hrestarted⟩

/-- The inbounds of the plan that is applied list the users of the changed tags, and they are the plan's where a
core runs. -/
theorem applied_lists (hreaches : RebuildReaches env answers loop tags) (hrebuilt : RebuiltLoop loop ready tags)
    (hmarked : ∀ tag ∈ tags, tag ∈ loop.plan.nodeInfos.map (·.tag)) {reportPlan : RuntimeBootstrapPlan}
    {skipped : List Text} (hskips : SkipsTaken env answers.control ready.plan reportPlan ready.world skipped) :
    (∀ tag ∈ tags, ∃ entry, loop.userSync[tag]? = some entry ∧ ConfigLists ready.plan tag entry.state.users
        ((inboundsOf reportPlan.corePlan).map fun inbound => (inbound.tag, inbound.users.map renderKeliCoreRsUser))) ∧
      (ready.world.core.isSome = true → inboundsOf reportPlan.corePlan = inboundsOf ready.plan.corePlan) := by
  have hrunning : ready.world.core.isSome = true → skipped = [] := by
    intro hcore
    rw [List.eq_nil_iff_forall_not_mem]
    intro tag htag
    obtain ⟨hcontinue, hstatus, -⟩ := hskips.taken tag htag
    rw [hrebuilt.resolved] at hcontinue
    rw [hreaches.status hcontinue (hrebuilt.world.running ▸ hcore)] at hstatus
    simp [coreStatus, Except.toOption, hcore] at hstatus
  refine ⟨fun tag htag => ?_, fun hcore => ?_⟩
  case refine_2 =>
    rw [hskips.inbounds, hrunning hcore]
    exact List.filter_eq_self.2 fun _ _ => rfl
  have hnot : tag ∉ skipped := by
    intro hmem
    obtain ⟨hcontinue, -, inbound, hinbound, rfl, htaken⟩ := hskips.taken _ hmem
    rw [hrebuilt.resolved] at hcontinue
    cases hcore : ready.world.core.isSome with
    | true =>
      rw [hrunning hcore] at hmem
      cases hmem
    | false =>
      have hfree := hreaches.free hcontinue (hrebuilt.world.running ▸ hcore)
      obtain ⟨built, hbuilt⟩ := hrebuilt.built
      obtain ⟨node, hnode, -, hof⟩ := hbuilt.planned.inboundOf inbound hinbound
      have hfound : node ∈ loop.plan.nodeInfos.filter (·.tag ∈ tags) :=
        List.mem_filter.2 ⟨hrebuilt.nodes.subset hnode, decide_eq_true (hof.tag ▸ htag)⟩
      have hnone := List.all_eq_true.1 hfree node hfound
      rw [hof.settings] at hnone
      have hsame : firstUnavailableListenerError env answers.control { inbound with users := [] } =
          firstUnavailableListenerError env answers.control inbound := rfl
      simp only [Except.toOption, Option.all_some, hsame, Option.isNone_iff_eq_none] at hnone
      rw [hnone] at htaken
      cases htaken
  obtain ⟨entry, hentry, hlists⟩ := hrebuilt.lists tag htag
  refine ⟨entry, hentry, fun found hfound hsame => ?_, fun hsome => ?_⟩
  · obtain ⟨inbound, hinbound, rfl⟩ := List.mem_map.1 hfound
    rw [hskips.inbounds] at hinbound
    obtain ⟨node, hnode, hnodeTag, husers⟩ := hlists.held inbound (List.mem_filter.1 hinbound).1 hsame
    exact ⟨node, hnode, hnodeTag, by rw [husers]⟩
  · obtain ⟨node, hnode, hnodeTag⟩ := List.mem_map.1 (hmarked tag htag)
    obtain ⟨inbound, hinbound, hsame⟩ :=
      hlists.there node (hrebuilt.kept node hnode (hnodeTag ▸ htag)) hnodeTag hsome
    rw [hskips.inbounds, List.map_map]
    refine List.mem_map.2 ⟨inbound, List.mem_filter.2 ⟨hinbound, ?_⟩, hsame⟩
    rw [hsame, Bool.not_eq_true', List.contains_eq_mem, decide_eq_false_iff_not]
    exact hnot

/-- The plan lists every changed tag with users. -/
theorem RebuiltLoop.planned (h : RebuiltLoop loop ready tags)
    (hmarked : ∀ tag ∈ tags, tag ∈ loop.plan.nodeInfos.map (·.tag)) {tag : Text} (htag : tag ∈ tags) {entry : RuntimeUserSyncEntry} (hentry : loop.userSync[tag]? = some entry)
    (hsome : hasPlannedUsers entry.state.users = true) : tag ∈ plannedTags ready.plan := by
  obtain ⟨found, hfound, hlists⟩ := h.lists tag htag
  rw [hentry, Option.some.injEq] at hfound
  subst hfound
  obtain ⟨node, hnode, hnodeTag⟩ := List.mem_map.1 (hmarked tag htag)
  obtain ⟨inbound, hinbound, hsame⟩ := hlists.there node (h.kept node hnode (hnodeTag ▸ htag)) hnodeTag hsome
  exact List.mem_map.2 ⟨inbound, hinbound, hsame⟩

/-! ## The full lists after it -/

/-- Whatever is refused: each inbound is as it was, or holds its full list. -/
theorem baseline_each {plan : RuntimeBootstrapPlan} {corePlan : CorePlan} {sync : RuntimeUserSync} {tags : List Text}
    (htags : ∀ tag ∈ tags, TagOk corePlan tag) {world : ControlWorld ν σ} {core : RunningCore ν}
    (hcore : world.core = some core) :
    ∃ core', establishBaseline answers plan corePlan sync tags world = { world with core := some core' } ∧
      ∀ tag, core'.inbounds[tag]? = core.inbounds[tag]? ∨ ∃ entry inbound, sync[tag]? = some entry ∧
        core'.inbounds[tag]? = some inbound ∧ inbound.users = expectedUsers plan tag entry := by
  induction tags generalizing world core with
  | nil => exact ⟨core, by rw [establishBaseline, ← hcore], fun _ => .inl rfl⟩
  | cons tag tags ih =>
    have hrest : ∀ other ∈ tags, TagOk corePlan other := fun other hother => htags other (List.mem_cons_of_mem _ hother)
    have hstays : ∃ core', world = { world with core := some core' } ∧
        ∀ tag, core'.inbounds[tag]? = core.inbounds[tag]? ∨ ∃ entry inbound, sync[tag]? = some entry ∧
          core'.inbounds[tag]? = some inbound ∧ inbound.users = expectedUsers plan tag entry :=
      ⟨core, by rw [← hcore], fun _ => .inl rfl⟩
    rw [establishBaseline]
    cases hentry : sync[tag]? with
    | none => exact ih hrest hcore
    | some entry =>
      simp only [targetTags_eq (htags tag List.mem_cons_self)]
      by_cases hplans : plansTag corePlan tag
      · rw [if_pos hplans, sendSnapshots]
        cases hinbound : core.inbounds[tag]? with
        | none =>
          cases hanswer : answers.baseline tag with
          | none =>
            simp only [sendUserDelta, hcore, RunningCore.applyUserDelta, hinbound]
            exact hstays
          | some error => exact hstays
        | some inbound =>
          rcases sendUserDelta_cases hcore hinbound (answers.baseline tag)
            (keliCoreUserFullSnapshotPayload entry (keliCoreDeviceLimitFallbackForNode plan tag)) with
            ⟨error, -, hsend⟩ | ⟨-, error, -, hsend⟩ | ⟨-, after, hafter, hsend⟩
          · rw [hsend]
            exact hstays
          · rw [hsend]
            exact hstays
          · rw [hsend]
            simp only [sendSnapshots]
            have hset : ({ world with core := some (core.set tag after) } : ControlWorld ν σ).core =
                some (core.set tag after) := rfl
            have husers : after.users = expectedUsers plan tag entry := by
              cases hafter
              rfl
            obtain ⟨core', hrun, heach⟩ := ih hrest hset
            refine ⟨core', hrun, fun other => ?_⟩
            rcases heach other with hsame | hlist
            · by_cases heq : other = tag
              · subst heq
                rw [RunningCore.set_get_self] at hsame
                exact .inr ⟨entry, after, hentry, hsame, husers⟩
              · rw [core.set_get_ne heq] at hsame
                exact .inl hsame
            · exact .inr hlist
      · rw [if_neg hplans, sendSnapshots]
        exact ih hrest hcore

/-- A core that the users have reached keeps them. -/
theorem UsersReached.baseline {plan : RuntimeBootstrapPlan} {sync : RuntimeUserSync}
    (htags : ∀ corePlan, plan.corePlan = some corePlan → ∀ tag ∈ tags, TagOk corePlan tag) {world : ControlWorld ν σ}
    {tag : Text} {entry : RuntimeUserSyncEntry} (hentry : sync[tag]? = some entry)
    (h : UsersReached plan tag entry.state.users world.core) :
    UsersReached plan tag entry.state.users
      (tryEstablishKeliCoreRsRevisionBaseline answers plan sync tags world).core := by
  unfold tryEstablishKeliCoreRsRevisionBaseline
  split
  · rename_i corePlan hplan _
    cases hcore : world.core with
    | none =>
      rw [establishBaseline_of_none hcore]
      exact h
    | some core =>
      obtain ⟨core', hrun, heach⟩ :=
        @baseline_each ν σ answers plan corePlan sync tags (htags corePlan hplan) world core hcore
      rw [hcore] at h
      rw [hrun]
      refine ⟨fun running hrunning inbound hinbound => ?_, fun hsome => ⟨core', rfl, ?_⟩⟩
      · cases hrunning
        rcases heach tag with hsame | ⟨found, full, hfound, hfull, husers⟩
        · rw [hsame] at hinbound
          exact h.held core rfl inbound hinbound
        · rw [hentry, Option.some.injEq] at hfound
          subst hfound
          rw [hfull, Option.some.injEq] at hinbound
          subst hinbound
          exact .inr husers
      · obtain ⟨running, hrunning, hmem⟩ := h.there hsome
        cases hrunning
        rw [ExtTreeMap.mem_iff_isSome_getElem?] at hmem ⊢
        rcases heach tag with hsame | ⟨found, full, -, hfull, -⟩
        · rw [hsame]
          exact hmem
        · rw [hfull]
          rfl
  · exact h

/-! ## The apply -/

theorem RebuiltLoop.tagOk (h : RebuiltLoop loop ready tags) (hnodes : NodeTagsOk loop.plan.nodeInfos)
    (hmarked : ∀ tag ∈ tags, tag ∈ loop.plan.nodeInfos.map (·.tag)) {corePlan : CorePlan}
    (hplan : ready.plan.corePlan = some corePlan) {tag : Text} (htag : tag ∈ tags) : TagOk corePlan tag := by
  obtain ⟨users, hbuilt⟩ := h.built
  obtain ⟨node, hnode, rfl⟩ := List.mem_map.1 (hmarked tag htag)
  have hnodup := hbuilt.nodup_tags (hnodes.sublist h.nodes).nodup
  rw [hplan] at hnodup
  refine ⟨hnodup, fun inbound hinbound => ?_⟩
  obtain ⟨other, hother, -, hof⟩ := hbuilt.planned.inboundOf inbound (by rw [hplan]; exact hinbound)
  rw [hof.tag]
  exact hnodes.apart node hnode other (h.nodes.subset hother)

/-- A core that is sent the full lists of tags it has an inbound for, where the plan does, holds them. -/
theorem reached_of_lists (hrebuilt : RebuiltLoop loop ready tags) (hnodes : NodeTagsOk loop.plan.nodeInfos)
    (hnodup : tags.Nodup) (hmarked : ∀ tag ∈ tags, tag ∈ loop.plan.nodeInfos.map (·.tag))
    (hlists : ListsTaken answers loop tags) {corePlan : CorePlan} (hplan : ready.plan.corePlan = some corePlan)
    {world : ControlWorld ν σ} {core : RunningCore ν} (hcore : world.core = some core)
    (hkeys : ∀ tag ∈ tags, tag ∈ core.inbounds ↔ tag ∈ plannedTags ready.plan) {tag : Text} (htag : tag ∈ tags)
    {entry : RuntimeUserSyncEntry} (hentry : loop.userSync[tag]? = some entry) :
    UsersReached ready.plan tag entry.state.users
      (tryEstablishKeliCoreRsRevisionBaseline answers ready.plan ready.userSync tags world).core := by
  have hplanned : ∀ tag, tag ∈ plannedTags ready.plan ↔ plansTag corePlan tag := by
    intro tag
    rw [plannedTags, hplan]
    rfl
  obtain ⟨core', hrun, honly, -, hsettled⟩ := @baselineLoop_spec ν σ answers ready.plan ready.userSync corePlan tags
    hnodup world core hcore fun other hother => ⟨hrebuilt.tagOk hnodes hmarked hplan hother,
      (hkeys other hother).trans (hplanned other), by
        obtain ⟨found, hfound, -⟩ := hrebuilt.lists other hother
        rw [hrebuilt.userSync, hfound]
        rfl⟩
  simp only [tryEstablishKeliCoreRsRevisionBaseline, hplan, hlists.client, hrun]
  refine ⟨fun running hrunning inbound hinbound => ?_, fun hsome => ⟨core', rfl, ?_⟩⟩
  · cases hrunning
    obtain ⟨found, hfound, husers⟩ := hsettled hlists.calls tag htag inbound hinbound
    rw [hrebuilt.userSync, hentry, Option.some.injEq] at hfound
    subst hfound
    exact .inr husers
  · rw [honly.keys, hkeys tag htag]
    exact hrebuilt.planned hmarked htag hentry hsome

/-- A file with the users of every changed tag is not behind. -/
theorem FileBehind.not_of_listed {content : CoreConfig ν}
    (hfile : loop.world.configFile (coreConfigPath loop.plan.resolved) = some content)
    (hlisted : ∀ tag ∈ tags, ∃ entry, loop.userSync[tag]? = some entry ∧
      ConfigLists loop.plan tag entry.state.users content.inbounds) : ¬ FileBehind answers loop tags := by
  intro hbehind
  obtain ⟨tag, htag, found, hfound, hnot⟩ := hbehind.file content hfile
  obtain ⟨entry, hentry, hlists⟩ := hlisted tag htag
  rw [hentry, Option.mem_some] at hfound
  subst hfound
  exact hnot hlists

variable [DecidableEq ν]

/-- After the apply the core holds the users of a changed tag, or it goes on with the inbounds of the plan and is to
be sent the full lists. -/
theorem applied_core (hreaches : RebuildReaches env answers loop tags) (hrebuilt : RebuiltLoop loop ready tags)
    (hmarked : ∀ tag ∈ tags, tag ∈ loop.plan.nodeInfos.map (·.tag)) {result : RuntimeApplyResult}
    {world : ControlWorld ν σ}
    (h : applyRuntimePlan env answers.control ready.plan { keliCoreRsUserDeltaApplied := false } ready.world =
      (.ok result, world)) {tag : Text} (htag : tag ∈ tags) {entry : RuntimeUserSyncEntry}
    (hentry : loop.userSync[tag]? = some entry) :
    UsersReached ready.plan tag entry.state.users world.core ∨ ListsTaken answers loop tags ∧ ∃ corePlan core,
      ready.plan.corePlan = some corePlan ∧ world.core = some core ∧
        ∀ tag ∈ tags, tag ∈ core.inbounds ↔ tag ∈ plannedTags ready.plan := by
  have hstart : ({ keliCoreRsUserDeltaApplied := false } : RuntimeControlOptions).startCore = true := rfl
  have hstep := applyRuntimePlan_cases env answers.control ready.plan hstart ready.world
  rw [h] at hstep
  obtain ⟨file, fingerprint, core', firewall⟩ := world
  simp only at hstep ⊢
  cases hstep with
  | stopped hplan =>
    refine .inl ⟨fun _ hcore => (by cases hcore), fun hsome => ?_⟩
    have hmem := hrebuilt.planned hmarked htag hentry hsome
    rw [plannedTags, hplan] at hmem
    cases hmem
  | noInbounds hplan hreport hnone =>
    obtain ⟨skipped, hskips⟩ := reportPlanFor_skips hstart hreport
    obtain ⟨hlisted, hrunning⟩ := applied_lists hreaches hrebuilt hmarked hskips
    cases hcore : ready.world.core with
    | some core =>
      -- a plan with a core plan has inbounds, and none of them was skipped
      obtain ⟨corePlan, hcorePlan⟩ := Option.ne_none_iff_exists'.1 hplan
      obtain ⟨users, hbuilt⟩ := hrebuilt.built
      have hempty := hrunning (by rw [hcore]; rfl)
      rw [hnone, hcorePlan] at hempty
      exact absurd hempty.symm (hbuilt.corePlan corePlan hcorePlan).2
    | none =>
      refine .inl ⟨fun _ hcore => (by cases hcore), fun hsome => ?_⟩
      obtain ⟨found, hfound, hlists⟩ := hlisted tag htag
      rw [hentry, Option.some.injEq] at hfound
      subst hfound
      have hmem := hlists.there hsome
      rw [hnone] at hmem
      cases hmem
  | @processed reportPlan corePlan content bare changed _ _ hreport hsome hrenders hsame hchanged hcoreStep =>
    obtain ⟨skipped, hskips⟩ := reportPlanFor_skips hstart hreport
    obtain ⟨hlisted, hrunning⟩ := applied_lists hreaches hrebuilt hmarked hskips
    have hcontent : (inboundsOf reportPlan.corePlan).map (fun inbound =>
        (inbound.tag, inbound.users.map renderKeliCoreRsUser)) = content.inbounds := by
      rw [hrenders.inbounds, hsome]
      rfl
    rw [hcontent] at hlisted
    have hkeys : ready.world.core.isSome = true → ∀ tag,
        tag ∈ content.inbounds.map (·.1) ↔ tag ∈ plannedTags ready.plan := by
      intro hcore tag
      rw [hrenders.inbounds, renderedTags, plannedTags, ← hrunning hcore, hsome]
      rfl
    obtain ⟨planned, hplanned, hsamePath⟩ := hskips.path corePlan hsome
    have hpath : corePlan.configPath = coreConfigPath loop.plan.resolved := by
      obtain ⟨users, hbuilt⟩ := hrebuilt.built
      rw [hsamePath, (hbuilt.corePlan planned hplanned).1, hrebuilt.resolved]
    have hnotBehind : ready.world.configFile corePlan.configPath = some content → ¬ FileBehind answers loop tags := by
      intro hfile
      rw [hpath, hrebuilt.world.configFile] at hfile
      refine FileBehind.not_of_listed hfile fun other hother => ?_
      obtain ⟨latest, hlatest, hlists⟩ := hlisted other hother
      exact ⟨latest, hlatest, hlists.mono hrebuilt.nodes.subset⟩
    have hlists : ready.world.core.isSome = true → ListsTaken answers loop tags ∨ FileBehind answers loop tags := by
      intro hcore
      exact hreaches.lists (hrebuilt.world.running ▸ hcore)
    generalize hbefore : ready.world.core = old at hcoreStep hlists hkeys
    cases hcoreStep with
    | kept _ hdelta => cases hdelta
    | running hunchanged hcore =>
      obtain ⟨core, rfl⟩ := Option.isSome_iff_exists.1 hcore
      refine .inr ⟨(hlists rfl).resolve_right (hnotBehind (hsame hunchanged)), planned, core, hplanned, rfl,
        fun other hother => ?_⟩
      have htaken := (hlists rfl).resolve_right (hnotBehind (hsame hunchanged))
      have hfile := hsame hunchanged
      rw [hpath, hrebuilt.world.configFile] at hfile
      obtain ⟨held, hheld, hsameKeys⟩ := hrebuilt.world.keys core hbefore
      rw [hsameKeys, htaken.inbounds held hheld content hfile other hother]
      exact hkeys rfl other
    | loaded =>
      obtain ⟨found, hfound, hconfig⟩ := hlisted tag htag
      rw [hentry, Option.some.injEq] at hfound
      subst hfound
      exact .inl (hconfig.reached _)
    | routed _ hcore hanswer =>
      subst hcore
      refine .inr ⟨(hlists rfl).resolve_right fun hbehind => ?_, planned, _, hplanned, rfl, fun other _ => ?_⟩
      · have hroutes := hbehind.routes
        rw [hanswer] at hroutes
        cases hroutes
      · rw [mem_applyRoutes, hrenders.bareInbounds, renderedTags, ← hkeys rfl other, hrenders.inbounds, renderedTags]

/-- **The rebuilt plan is applied**: the core holds the users of the changed tags. -/
theorem apply_reaches (hreaches : RebuildReaches env answers loop tags) (hrebuilt : RebuiltLoop loop ready tags)
    (hnodup : tags.Nodup) (hmarked : ∀ tag ∈ tags, tag ∈ loop.plan.nodeInfos.map (·.tag)) {after : RuntimeLoop ν σ}
    (h : applyTickPlan env answers false tags ready = (.ok (), after)) {tag : Text} (htag : tag ∈ tags) :
    ∃ entry, loop.userSync[tag]? = some entry ∧ UsersReached after.plan tag entry.state.users after.world.core := by
  obtain ⟨entry, hentry, -⟩ := hrebuilt.lists tag htag
  refine ⟨entry, hentry, ?_⟩
  unfold applyTickPlan at h
  cases happly : applyRuntimePlan env answers.control ready.plan { keliCoreRsUserDeltaApplied := false } ready.world with
  | mk outcome world =>
    rw [happly] at h
    cases outcome with
    | error error => cases h
    | ok result =>
      cases h
      rcases applied_core hreaches hrebuilt hmarked happly htag hentry with
        hreached | ⟨hlists, corePlan, core, hplan, hcore, hkeys⟩
      · have hsync : ready.userSync[tag]? = some entry := by rw [hrebuilt.userSync]; exact hentry
        exact hreached.baseline (fun _ hplan _ hmem => hrebuilt.tagOk hreaches.nodes hmarked hplan hmem) hsync
      · exact reached_of_lists hrebuilt hreaches.nodes hnodup hmarked hlists hplan hcore hkeys htag hentry

end

end KeliNode
