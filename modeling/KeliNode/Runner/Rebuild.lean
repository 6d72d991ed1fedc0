import KeliNode.Runner.Tick
import KeliNode.Runtime.Build

/-!
# Deleted users and rebuilt plans

After a delta was applied natively the plan's own users are stale on purpose; every later rebuild is to prefer
the users of the sync state.  It does so by node, and where the sync state of a node is empty it falls back to
the plan.  `producedPlans` collects the plans a turn of the loop builds, each with the state it is built from;
`deleted_users_stay_deleted` says when none of them brings a deleted user back.
-/

namespace KeliNode

open Lib Std

/-! ## The plans of a turn -/

section

variable {ν σ : Type} (validate : InboundPlan → Except Text Unit)

/-- A plan that was rebuilt, with the state it is rebuilt from and the changed nodes: these get the users of their
entries. -/
structure ProducedPlan (ν σ : Type) where
  source : RuntimeLoop ν σ
  changed : List Text
  plan : RuntimeBootstrapPlan

/-- The plan rebuilt with `users`. -/
def producedFrom (source : RuntimeLoop ν σ) (changed : List Text) (users : UsersByNodeTag) :
    List (ProducedPlan ν σ) :=
  match rebuildRuntimePlanWithUsers validate source.plan users with
  | .ok plan => [{ source, changed, plan }]
  | .error _ => []

/-- The plan a `Rebuild` outcome produces. -/
def producedByChanges (answers : TickAnswers) (users : UsersByNodeTag) (loop : RuntimeLoop ν σ) :
    List (ProducedPlan ν σ) :=
  if users.isEmpty then []
  else match deltaOutcome answers users.keys loop with
    | .ok (.rebuild, world) =>
      producedFrom validate { loop with world } users.keys
        (userSyncUsersForRuntimeRebuild loop.plan loop.userSync users.keys users)
    | _ => []

/-- The plan a restart of the core produces. -/
def producedByRestart (answers : TickAnswers) (loop : RuntimeLoop ν σ) : List (ProducedPlan ν σ) :=
  match loop.plan.corePlan, coreStatus answers.restart loop.world with
  | some _, .ok false =>
    let users := latestUsersByNodeTagForCorePlan loop.plan loop.userSync
    if users.isEmpty then [] else producedFrom validate loop [] users
  | _, _ => []

/-- The plans a turn of the loop produces, each with the state it is rebuilt from. -/
def producedPlans (loop : RuntimeLoop ν σ) (step : LoopStep) : List (ProducedPlan ν σ) :=
  match step.before loop with
  | none => []
  | some (users, loop) =>
    if step.event && users.isEmpty then []
    else producedByChanges validate step.answers users loop ++
      match applyUserChanges validate step.answers step.reportToPanel users loop with
      | (.ok (.goOn _ _), loop) => producedByRestart validate step.answers loop
      | _ => []

end

/-! ## What a rebuild reads -/

section

variable {ν σ : Type} {validate : InboundPlan → Except Text Unit}

theorem getD_insert (users : UsersByNodeTag) (tag other : Text) (own : List UserInfo) :
    (users.insert tag own).getD other [] = if tag = other then own else users.getD other [] := by
  rw [ExtTreeMap.getD_insert]
  simp only [Std.compare_eq_iff_eq]

/-- The last users an inbound of the tag contributes, from any map. -/
theorem foldl_latest (syncState : RuntimeUserSync) (tag : Text) (inbounds : List InboundPlan) (users : UsersByNodeTag)
    {user : UserInfo} (huser : user ∈ (inbounds.foldl (fun users inbound =>
      let latest := latestUsersForInbound syncState inbound
      if latest.isEmpty then users else users.insert inbound.tag latest) users).getD tag []) :
    user ∈ users.getD tag [] ∨
      ∃ inbound ∈ inbounds, inbound.tag = tag ∧ user ∈ latestUsersForInbound syncState inbound := by
  induction inbounds generalizing users with
  | nil => exact .inl huser
  | cons inbound inbounds ih =>
    rw [List.foldl_cons] at huser
    rcases ih _ huser with hmem | ⟨other, hother, htag, hmem⟩
    · simp only at hmem
      split at hmem
      · exact .inl hmem
      · rw [getD_insert] at hmem
        split at hmem
        · rename_i htag
          exact .inr ⟨inbound, List.mem_cons_self, htag, hmem⟩
        · exact .inl hmem
    · exact .inr ⟨other, List.mem_cons_of_mem _ hother, htag, hmem⟩

/-- The users a rebuild reads for a node with a sync entry: those of the entry, or the plan's where the entry has
none. -/
structure ReadFor (plan : RuntimeBootstrapPlan) (entry : RuntimeUserSyncEntry) (tag : Text) (user : UserInfo) : Prop where
  ofState : entry.state.users ≠ [] → user ∈ entry.state.users
  ofPlan : entry.state.users = [] → ∃ inbound ∈ inboundsOf plan.corePlan, inbound.tag = tag ∧
    ∃ planned ∈ inbound.users, planned.uuid = user.uuid

theorem readFor_latest {plan : RuntimeBootstrapPlan} {syncState : RuntimeUserSync} {tag : Text}
    {entry : RuntimeUserSyncEntry} (hentry : syncState[tag]? = some entry) {user : UserInfo}
    (huser : user ∈ (latestUsersByNodeTagForCorePlan plan syncState).getD tag []) : ReadFor plan entry tag user := by
  unfold latestUsersByNodeTagForCorePlan at huser
  cases hplan : plan.corePlan with
  | none =>
    rw [hplan] at huser
    simp at huser
  | some corePlan =>
    rw [hplan] at huser
    rcases foldl_latest syncState tag corePlan.inbounds ∅ huser with hmem | ⟨inbound, hinbound, rfl, hmem⟩
    · simp at hmem
    · simp only [latestUsersForInbound, hentry] at hmem
      refine ⟨fun hne => ?_, fun hnil => ?_⟩
      · rwa [if_neg (by simpa using hne)] at hmem
      · rw [if_pos (by simpa using hnil)] at hmem
        obtain ⟨planned, hplanned, rfl⟩ := List.mem_map.1 hmem
        exact ⟨inbound, by rw [hplan]; exact hinbound, rfl, planned, hplanned, rfl⟩

theorem foldl_userSync (syncState : RuntimeUserSync) (fallback : UsersByNodeTag) {tag : Text}
    {entry : RuntimeUserSyncEntry} (hentry : syncState[tag]? = some entry) (tags : List Text) (users : UsersByNodeTag) :
    (userSyncUsersForTags syncState tags fallback users).getD tag [] =
      if tag ∈ tags then entry.state.users else users.getD tag [] := by
  unfold userSyncUsersForTags
  induction tags generalizing users with
  | nil => simp
  | cons other tags ih =>
    rw [List.foldl_cons, ih]
    by_cases hlater : tag ∈ tags
    · simp [hlater]
    · by_cases htag : other = tag
      · subst htag
        simp [hlater, hentry]
      · rw [if_neg hlater, if_neg (by simp [hlater, Ne.symm htag])]
        split
        · rw [getD_insert, if_neg htag]
        · split
          · rw [getD_insert, if_neg htag]
          · rfl

/-- The users a rebuild gives a changed node are those of its entry, the others' are read as above. -/
theorem mem_userSyncUsersForRuntimeRebuild {plan : RuntimeBootstrapPlan} {syncState : RuntimeUserSync} {tag : Text}
    {entry : RuntimeUserSyncEntry} (hentry : syncState[tag]? = some entry) {tags : List Text}
    {fallback : UsersByNodeTag} {user : UserInfo}
    (huser : user ∈ (userSyncUsersForRuntimeRebuild plan syncState tags fallback).getD tag []) :
    user ∈ entry.state.users ∨ (tag ∉ tags ∧ ReadFor plan entry tag user) := by
  rw [userSyncUsersForRuntimeRebuild, foldl_userSync syncState fallback hentry] at huser
  split at huser
  · exact .inl huser
  · rename_i hnot
    exact .inr ⟨hnot, readFor_latest hentry huser⟩

/-! ## Listed users -/

/-- The plan's inbound for the node lists the uuid. -/
def listsUser (plan : RuntimeBootstrapPlan) (tag uuid : Text) : Bool :=
  (inboundsOf plan.corePlan).any fun inbound => inbound.tag = tag && inbound.users.any (·.uuid = uuid)

theorem listsUser_iff {plan : RuntimeBootstrapPlan} {tag uuid : Text} :
    listsUser plan tag uuid = true ↔
      ∃ inbound ∈ inboundsOf plan.corePlan, inbound.tag = tag ∧ ∃ user ∈ inbound.users, user.uuid = uuid := by
  simp [listsUser]

/-- A listed uuid comes from a user the plan was built with. -/
theorem exists_user_of_listed {users : UsersByNodeTag} {plan : RuntimeBootstrapPlan} (hbuilt : BuiltWith users plan)
    {tag uuid : Text} (h : listsUser plan tag uuid = true) : ∃ user ∈ users.getD tag [], trim user.uuid = uuid := by
  obtain ⟨inbound, hinbound, rfl, planned, hplanned, rfl⟩ := listsUser_iff.1 h
  obtain ⟨node, -, -, hof⟩ := hbuilt.planned.inboundOf inbound hinbound
  rw [hof.users, plannedUsers, inboundUsers] at hplanned
  simp only [List.map_map, List.mem_map, List.mem_filter] at hplanned
  obtain ⟨user, ⟨hmem, -⟩, rfl⟩ := hplanned
  exact ⟨user, hof.tag ▸ hmem, rfl⟩

/-- The uuid is not among the node's users of the sync state. -/
def deletedFrom (syncState : RuntimeUserSync) (tag uuid : Text) : Bool :=
  syncState[tag]?.any fun entry => entry.state.users.all (·.uuid ≠ uuid)

/-- What a rebuild reads for the node holds no user with the uuid: the node changed or has users left, none of which
trims to it, or the plan's inbound for the node does not list it. -/
def SafeSource (plan : RuntimeBootstrapPlan) (syncState : RuntimeUserSync) (changed : List Text) (tag uuid : Text) :
    Prop :=
  ∀ entry ∈ syncState[tag]?,
    (∀ user ∈ entry.state.users, trim user.uuid = uuid → user.uuid = uuid) ∧
      (tag ∉ changed → entry.state.users = [] → ∀ inbound ∈ inboundsOf plan.corePlan, inbound.tag = tag →
        ∀ user ∈ inbound.users, trim user.uuid ≠ uuid)

instance (plan : RuntimeBootstrapPlan) (syncState : RuntimeUserSync) (changed : List Text) (tag uuid : Text) :
    Decidable (SafeSource plan syncState changed tag uuid) :=
  inferInstanceAs (Decidable (∀ _ ∈ _, (∀ _ ∈ _, _ → _) ∧ (_ → _ → ∀ _ ∈ _, _ → ∀ _ ∈ _, _)))

/-- The users a rebuild is given for a node with an entry: those of the entry, or what is read for a node that did
not change. -/
def GivenFor (source : RuntimeLoop ν σ) (changed : List Text) (users : UsersByNodeTag) : Prop :=
  ∀ tag entry, source.userSync[tag]? = some entry → ∀ user ∈ users.getD tag [],
    user ∈ entry.state.users ∨ (tag ∉ changed ∧ ReadFor source.plan entry tag user)

theorem not_given_of_deleted {source : RuntimeLoop ν σ} {changed : List Text} {tag uuid : Text}
    {entry : RuntimeUserSyncEntry} (hentry : source.userSync[tag]? = some entry)
    (hsafe : SafeSource source.plan source.userSync changed tag uuid)
    (hdeleted : deletedFrom source.userSync tag uuid = true) {user : UserInfo}
    (huser : user ∈ entry.state.users ∨ (tag ∉ changed ∧ ReadFor source.plan entry tag user)) :
    trim user.uuid ≠ uuid := by
  obtain ⟨htrim, hplan⟩ := hsafe entry hentry
  have hgone : ∀ user ∈ entry.state.users, user.uuid ≠ uuid := by
    simpa [deletedFrom, hentry] using hdeleted
  have hstate : user ∈ entry.state.users → trim user.uuid ≠ uuid :=
    fun hmem heq => hgone user hmem (htrim user hmem heq)
  rcases huser with hmem | ⟨hnot, hread⟩
  · exact hstate hmem
  · by_cases hnil : entry.state.users = []
    · obtain ⟨inbound, hinbound, htag, planned, hplanned, huuid⟩ := hread.ofPlan hnil
      rw [← huuid]
      exact hplan hnot hnil inbound hinbound htag planned hplanned
    · exact hstate (hread.ofState hnil)

/-- A plan produced from a safe state does not list a deleted user. -/
theorem not_listed_of_producedFrom {source : RuntimeLoop ν σ} {changed : List Text} {users : UsersByNodeTag}
    (hgiven : GivenFor source changed users) {produced : ProducedPlan ν σ}
    (hproduced : produced ∈ producedFrom validate source changed users) {tag uuid : Text}
    (hsafe : SafeSource produced.source.plan produced.source.userSync produced.changed tag uuid)
    (hdeleted : deletedFrom produced.source.userSync tag uuid = true) : listsUser produced.plan tag uuid = false := by
  unfold producedFrom at hproduced
  cases hbuild : rebuildRuntimePlanWithUsers validate source.plan users with
  | error error => rw [hbuild] at hproduced; cases hproduced
  | ok plan =>
    rw [hbuild, List.mem_singleton] at hproduced
    subst hproduced
    by_contra hlisted
    rw [Bool.not_eq_false] at hlisted
    obtain ⟨user, huser, htrim⟩ := exists_user_of_listed (rebuild_builtWith hbuild).1 hlisted
    cases hentry : source.userSync[tag]? with
    | none => simp [deletedFrom, hentry] at hdeleted
    | some entry => exact not_given_of_deleted hentry hsafe hdeleted (hgiven tag entry hentry user huser) htrim

/-! ## Turns -/

theorem mem_producedByChanges {answers : TickAnswers} {users : UsersByNodeTag} {loop : RuntimeLoop ν σ}
    {produced : ProducedPlan ν σ} (h : produced ∈ producedByChanges validate answers users loop) :
    ∃ world, produced ∈ producedFrom validate { loop with world } users.keys
      (userSyncUsersForRuntimeRebuild loop.plan loop.userSync users.keys users) := by
  unfold producedByChanges at h
  split at h
  · cases h
  · split at h
    · rename_i world _
      exact ⟨world, h⟩
    · cases h

theorem mem_producedByRestart {answers : TickAnswers} {loop : RuntimeLoop ν σ} {produced : ProducedPlan ν σ}
    (h : produced ∈ producedByRestart validate answers loop) :
    produced ∈ producedFrom validate loop [] (latestUsersByNodeTagForCorePlan loop.plan loop.userSync) := by
  unfold producedByRestart at h
  split at h
  · simp only at h
    split at h
    · cases h
    · exact h
  · cases h

/-- Every plan of a turn is rebuilt from users that stand in the sync state or, where a node did not change and its
state is empty, in the plan. -/
theorem mem_producedPlans {loop : RuntimeLoop ν σ} {step : LoopStep} {produced : ProducedPlan ν σ}
    (h : produced ∈ producedPlans validate loop step) :
    ∃ source changed users, produced ∈ producedFrom validate source changed users ∧ GivenFor source changed users := by
  unfold producedPlans at h
  split at h
  · cases h
  · rename_i users before _
    split at h
    · cases h
    · rcases List.mem_append.1 h with hchanges | hrestart
      · obtain ⟨world, hmem⟩ := mem_producedByChanges hchanges
        exact ⟨_, _, _, hmem, fun tag entry hentry user huser => mem_userSyncUsersForRuntimeRebuild hentry huser⟩
      · split at hrestart
        · rename_i mid _
          exact ⟨mid, _, _, mem_producedByRestart hrestart,
            fun tag entry hentry user huser => .inr ⟨by simp, readFor_latest hentry huser⟩⟩
        · cases hrestart

variable (validate)

/-- Every plan the turn produces is rebuilt from a state that is safe for the user. -/
def SafeTurn (tag uuid : Text) (loop : RuntimeLoop ν σ) (step : LoopStep) : Prop :=
  ∀ produced ∈ producedPlans validate loop step,
    SafeSource produced.source.plan produced.source.userSync produced.changed tag uuid

instance (tag uuid : Text) (loop : RuntimeLoop ν σ) (step : LoopStep) :
    Decidable (SafeTurn validate tag uuid loop step) :=
  inferInstanceAs (Decidable (∀ produced ∈ _, _))

/-- No plan the turn produces lists the user while the node's sync state does not hold it. -/
def StaysDeleted (tag uuid : Text) (loop : RuntimeLoop ν σ) (step : LoopStep) : Prop :=
  ∀ produced ∈ producedPlans validate loop step,
    deletedFrom produced.source.userSync tag uuid = true → listsUser produced.plan tag uuid = false

instance (tag uuid : Text) (loop : RuntimeLoop ν σ) (step : LoopStep) :
    Decidable (StaysDeleted validate tag uuid loop step) :=
  inferInstanceAs (Decidable (∀ produced ∈ _, _ → _))

variable {validate}

theorem staysDeleted_of_safeTurn {tag uuid : Text} {loop : RuntimeLoop ν σ} {step : LoopStep}
    (hsafe : SafeTurn validate tag uuid loop step) : StaysDeleted validate tag uuid loop step := by
  intro produced hproduced hdeleted
  obtain ⟨source, changed, users, hmem, hgiven⟩ := mem_producedPlans hproduced
  exact not_listed_of_producedFrom hgiven hmem (hsafe produced hproduced) hdeleted

variable [DecidableEq ν]

/-- **Deleted users stay deleted**: along every run of the loop, from any plan and any sync state, in which every
rebuild and every restart finds a safe state for the user, none of the plans it produces lists the user while the
node's sync state does not hold it. -/
theorem deleted_users_stay_deleted (validate : InboundPlan → Except Text Unit) (env : ControlEnv ν σ)
    (tag uuid : Text) (steps : List LoopStep) (loop : RuntimeLoop ν σ)
    (hsafe : Along (loopStep validate env) (SafeTurn validate tag uuid) steps loop) :
    Along (loopStep validate env) (StaysDeleted validate tag uuid) steps loop :=
  Along.imp (fun _ _ hturn => staysDeleted_of_safeTurn hturn) hsafe

/-! ## The plan after a turn -/

omit [DecidableEq ν] in
theorem rebuilt_plan {source loop : RuntimeLoop ν σ} {users : UsersByNodeTag}
    (h : source.rebuilt validate users = .ok loop) (changed : List Text) :
    (producedFrom validate source changed users).map (·.plan) = [loop.plan] := by
  unfold RuntimeLoop.rebuilt at h
  unfold producedFrom
  cases hbuild : rebuildRuntimePlanWithUsers validate source.plan users with
  | error error => rw [hbuild] at h; cases h
  | ok plan =>
    rw [hbuild] at h
    cases h
    rfl

omit [DecidableEq ν] in
theorem applyUserChanges_plan {answers : TickAnswers} {reportToPanel : Bool} {users : UsersByNodeTag}
    {loop after : RuntimeLoop ν σ} {changes : UserChanges}
    (h : applyUserChanges validate answers reportToPanel users loop = (.ok changes, after)) :
    after.plan = ((producedByChanges validate answers users loop).map (·.plan)).getLastD loop.plan := by
  unfold applyUserChanges at h
  unfold producedByChanges
  split at h
  · rename_i hempty
    rw [if_pos hempty]
    cases h
    rfl
  · rename_i hne
    rw [if_neg hne]
    simp only at h
    split at h
    · cases h
    · rename_i houtcome
      rw [houtcome]
      cases h
      rfl
    · rename_i houtcome
      rw [houtcome]
      cases h
      rfl
    · rename_i world houtcome
      rw [houtcome]
      split at h
      · cases h
      · rename_i rebuilt hrebuilt
        cases h
        simp only [rebuilt_plan hrebuilt]
        rfl

omit [DecidableEq ν] in
theorem ensureRestart_plan {answers : TickAnswers} {loop after : RuntimeLoop ν σ}
    (h : ensureKeliCoreRsRestartUsesLatestUsers validate answers loop = .ok after) :
    after.plan = ((producedByRestart validate answers loop).map (·.plan)).getLastD loop.plan := by
  unfold ensureKeliCoreRsRestartUsesLatestUsers at h
  unfold producedByRestart
  cases hplan : loop.plan.corePlan with
  | none =>
    simp only [hplan] at h
    cases h
    rfl
  | some corePlan =>
    cases hstatus : coreStatus answers.restart loop.world with
    | error error => simp [hplan, hstatus] at h
    | ok running =>
      cases running with
      | true =>
        simp only [hplan, hstatus] at h
        cases h
        rfl
      | false =>
        simp only [hplan, hstatus] at h
        simp only
        split at h
        · rename_i hempty
          rw [if_pos hempty]
          cases h
          rfl
        · rename_i hne
          rw [if_neg hne, rebuilt_plan h []]
          rfl

/-- Applying the plan changes the world only. -/
theorem applyTickPlan_frame {env : ControlEnv ν σ} {answers : TickAnswers} {deltaApplied : Bool}
    {baselineTags : List Text} {loop after : RuntimeLoop ν σ}
    (h : applyTickPlan env answers deltaApplied baselineTags loop = (.ok (), after)) :
    after.plan = loop.plan ∧ after.userIdLookup = loop.userIdLookup ∧ after.userSync = loop.userSync := by
  unfold applyTickPlan at h
  split at h
  · cases h
  · cases h
    exact ⟨rfl, rfl, rfl⟩

theorem getLastD_append {α : Type} (xs ys : List α) (x : α) :
    (xs ++ ys).getLastD x = ys.getLastD (xs.getLastD x) := by
  cases ys with
  | nil => simp
  | cons y ys => simp [List.getLastD_eq_getLast?, List.getLast?_append]

omit [DecidableEq ν] in
theorem before_plan {step : LoopStep} {loop before : RuntimeLoop ν σ} {users : UsersByNodeTag}
    (h : step.before loop = some (users, before)) : before.plan = loop.plan := by
  unfold LoopStep.before LoopStep.refresh at h
  cases hpanel : step.panel with
  | none =>
    simp only [hpanel] at h
    cases h
    rfl
  | some panel =>
    simp only [hpanel] at h
    generalize loadUsersByNodeTagFromPanelWithStateAndMode loop.plan .tagMarkers panel loop.userSync = loaded at h
    obtain ⟨answer, userSync⟩ := loaded
    cases answer with
    | error error => cases h
    | ok users =>
      cases h
      rfl

/-- **The plan after a turn** is the last one the turn produced, or the old one. -/
theorem loopStep_plan {env : ControlEnv ν σ} {loop after : RuntimeLoop ν σ} {step : LoopStep}
    (h : loopStep validate env loop step = some after) :
    after.plan = ((producedPlans validate loop step).map (·.plan)).getLastD loop.plan := by
  unfold loopStep at h
  unfold producedPlans
  cases hbefore : step.before loop with
  | none => rw [hbefore] at h; cases h
  | some found =>
    obtain ⟨users, before⟩ := found
    have hplan := before_plan hbefore
    rw [hbefore, Option.bind_some] at h
    simp only at h ⊢
    by_cases hskip : (step.event && users.isEmpty) = true
    · rw [if_pos hskip] at h ⊢
      cases h
      exact hplan
    · rw [if_neg hskip] at h ⊢
      cases hchanges : applyUserChanges validate step.answers step.reportToPanel users before with
      | mk answer mid =>
        simp only [runTick, hchanges] at h
        cases answer with
        | error error => cases h
        | ok changes =>
          have hmid := applyUserChanges_plan hchanges
          rw [hplan] at hmid
          cases changes with
          | finished =>
            cases h
            simpa using hmid
          | goOn deltaApplied baselineTags =>
            simp only at h ⊢
            cases hrestart : ensureKeliCoreRsRestartUsesLatestUsers validate step.answers mid with
            | error error => simp [hrestart] at h
            | ok restarted =>
              have hlast := ensureRestart_plan hrestart
              simp only [hrestart] at h
              rw [List.map_append, getLastD_append, ← hmid, ← hlast]
              split at h
              · rename_i happly
                split at happly
                · cases happly
                · cases h
                  exact (applyTickPlan_frame happly).1
              · cases h

end

/-! ## One node that loses its last user -/

def acceptInbound (_ : InboundPlan) : Except Text Unit := .ok ()

def trojanNode (id : Nat) (tag : Text) (port : Nat) : NodeInfo :=
  { id, protocol := .trojan, tag, common := { serverPort := port } }

/-- A configuration with nodes of one panel. -/
def panelConfig (ids : List Nat) (continueOnError : Bool) : ResolvedConfig :=
  { continueOnError, nodes := ids.map fun nodeId => { url := "https://panel.example", nodeId } }

/-- The plan of some nodes and their users. -/
def plannedNodes (continueOnError : Bool) (nodes : List NodeInfo) (users : List (Text × List UserInfo)) :
    RuntimeBootstrapPlan :=
  match buildRuntimeBootstrapPlanWithUsers acceptInbound (panelConfig (nodes.map (·.id)) continueOnError) nodes []
      (ExtTreeMap.ofList users) with
  | .ok plan => plan
  | .error _ => socksPlan 0

/-- A loop at its start: the sync state holds the users of the plan at revision 1. -/
def startLoop (continueOnError : Bool) (nodes : List NodeInfo) (users : List (Text × List UserInfo)) :
    RuntimeLoop (List (Text × Text × Nat)) Unit where
  plan := plannedNodes continueOnError nodes users
  userSync := ExtTreeMap.ofList (users.map fun (tag, users) =>
    (tag, ({ state := { revision := 1, users } } : RuntimeUserSyncEntry)))
  userIdLookup := runtimeUserIdLookupFromPlan (plannedNodes continueOnError nodes users)
  world := { firewall := () }

/-- A panel that has the same change for every node. -/
def panelDelta (delta : UserDeltaBody) : Option (Text → PanelUsersAnswer) := some fun _ => { delta := .ok delta }

def userA : UserInfo := { id := 7, uuid := "uuid-a" }

def userB : UserInfo := { id := 8, uuid := "uuid-b" }

/-- The core starts, the panel deletes the user, the core exits and is started again. -/
def deleteThenRestart : List LoopStep :=
  [{}, { panel := panelDelta { revision := 2, deleted := [userA] } }, { coreExits := true }]

theorem deleted_users_stay_deleted_other :
    Along (loopStep acceptInbound listenEnv) (StaysDeleted acceptInbound "node-a" "uuid-a") deleteThenRestart
      (startLoop false [trojanNode 1 "node-a" 443] [("node-a", [userA, userB])]) := by
  refine deleted_users_stay_deleted acceptInbound listenEnv _ _ _ _ ?_
  decide +kernel

/-- The node's last user is deleted and the core drops it; the restarted core gets it back from the plan. -/
theorem deleted_user_resurrected :
    ¬ Along (loopStep acceptInbound listenEnv) (StaysDeleted acceptInbound "node-a" "uuid-a") deleteThenRestart
      (startLoop false [trojanNode 1 "node-a" 443] [("node-a", [userA])]) := by
  decide +kernel

end KeliNode
