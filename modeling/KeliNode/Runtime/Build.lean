import KeliNode.Lib.Except
import KeliNode.Runtime.Plan

/-!
# What a built plan holds

A plan built from nodes and their users has an inbound for every node that needs no users or has some, unless
the listener filter took the node out altogether; the inbound's users are the node's, trimmed and without the
blank ones (`build_builtWith`).
-/

namespace KeliNode

open Lib

/-- The users of an inbound as the plan holds them: emails are stripped. -/
def plannedUsers (node : NodeInfo) (users : List UserInfo) : List InboundUserPlan :=
  (inboundUsers node users).map fun user => { user with email := [] }

/-- The inbound is the node's, with the users of the map. -/
structure InboundOf (users : UsersByNodeTag) (node : NodeInfo) (inbound : InboundPlan) : Prop where
  tag : inbound.tag = node.tag
  users : inbound.users = plannedUsers node (users.getD node.tag [])
  settings : buildInboundPlanWithUsers node [] = .ok { inbound with users := [] }

/-- The node has an inbound: its protocol needs no users, or there are some. -/
def plansNode (users : UsersByNodeTag) (node : NodeInfo) : Bool :=
  !keliCoreRsProtocolRequiresUsers node.protocol || nodeHasKeliCoreRsUsers node.tag users

/-- The inbounds stand for nodes, in their order, and every node that is to have one has one. -/
structure PlannedFor (users : UsersByNodeTag) (nodes : List NodeInfo) (inbounds : List InboundPlan) : Prop where
  inboundOf : ∀ inbound ∈ inbounds, ∃ node ∈ nodes, plansNode users node = true ∧ InboundOf users node inbound
  complete : ∀ node ∈ nodes, plansNode users node = true → ∃ inbound ∈ inbounds, inbound.tag = node.tag
  tags : (inbounds.map (·.tag)).Sublist (nodes.map (·.tag))

/-- The inbounds of a core plan that may be missing. -/
def inboundsOf (core : Option CorePlan) : List InboundPlan := core.elim [] (·.inbounds)

/-- A core plan as the builder leaves it: at the configuration's path, with at least one inbound. -/
def CorePlanOk (resolved : ResolvedConfig) (core : Option CorePlan) : Prop :=
  ∀ corePlan, core = some corePlan → corePlan.configPath = coreConfigPath resolved ∧ corePlan.inbounds ≠ []

/-- A plan as `build_runtime_bootstrap_plan_with_users` leaves it. -/
structure BuiltWith (users : UsersByNodeTag) (plan : RuntimeBootstrapPlan) : Prop where
  planned : PlannedFor users plan.nodeInfos (inboundsOf plan.corePlan)
  corePlan : CorePlanOk plan.resolved plan.corePlan

/-! ## The core plan -/

section

variable {validate : InboundPlan → Except Text Unit} {configPath : Text} {users : UsersByNodeTag}

theorem keliCoreRsNodes_eq {nodes coreNodes : List NodeInfo}
    (h : keliCoreRsNodes validate configPath users nodes = .ok coreNodes) :
    coreNodes = nodes.filter (plansNode users) := by
  induction nodes generalizing coreNodes with
  | nil => cases h; rfl
  | cons node nodes ih =>
    rw [keliCoreRsNodes] at h
    by_cases hskip : (keliCoreRsProtocolRequiresUsers node.protocol && !nodeHasKeliCoreRsUsers node.tag users) = true
    · rw [if_pos hskip] at h
      have hplans : plansNode users node = false := by
        simp only [Bool.and_eq_true, Bool.not_eq_true'] at hskip
        simp [plansNode, hskip]
      rw [ih h, List.filter_cons_of_neg (by simp [hplans])]
    · rw [if_neg hskip] at h
      have hplans : plansNode users node = true := by
        cases hreq : keliCoreRsProtocolRequiresUsers node.protocol <;> simp [plansNode, hreq] at hskip ⊢
        exact hskip
      cases hsupported : nodeSupportedByKeliCoreRs validate configPath node users with
      | error error => rw [hsupported] at h; cases h
      | ok _ =>
        rw [hsupported] at h
        cases hrest : keliCoreRsNodes validate configPath users nodes with
        | error error => rw [hrest] at h; cases h
        | ok rest =>
          rw [hrest] at h
          cases h
          rw [ih hrest, List.filter_cons_of_pos hplans]

theorem buildInboundPlanWithUsers_spec {node : NodeInfo} {own : List UserInfo} {inbound : InboundPlan}
    (h : buildInboundPlanWithUsers node own = .ok inbound) :
    inbound.tag = node.tag ∧ inbound.users = inboundUsers node own ∧
      buildInboundPlanWithUsers node [] = .ok { inbound with users := [] } := by
  unfold buildInboundPlanWithUsers at h ⊢
  split at h
  · cases h
  · rename_i hport
    rw [if_neg hport]
    cases hnetwork : coreNetworkName node with
    | error error => rw [hnetwork] at h; cases h
    | ok network =>
      rw [hnetwork] at h
      cases hdecryption : resolveVlessDecryption node with
      | error error => rw [hdecryption] at h; cases h
      | ok decryption =>
        rw [hdecryption] at h
        cases h
        exact ⟨rfl, rfl, rfl⟩

theorem fromNodesWithUsers_spec {nodes : List NodeInfo} {corePlan : CorePlan}
    (h : CorePlan.fromNodesWithUsers configPath nodes users = .ok corePlan) :
    corePlan.configPath = configPath ∧ List.Forall₂ (InboundOf users) nodes corePlan.inbounds := by
  unfold CorePlan.fromNodesWithUsers at h
  cases hbuild : nodes.mapM fun node => buildInboundPlanWithUsers node (users.getD node.tag []) with
  | error error => rw [hbuild] at h; cases h
  | ok inbounds =>
    rw [hbuild] at h
    cases h
    refine ⟨rfl, ?_⟩
    simp only [stripNativeUserEmails, List.forall₂_map_right_iff]
    refine (forall₂_of_mapM_ok hbuild).imp fun node inbound hinbound => ?_
    obtain ⟨htag, husers, hsettings⟩ := buildInboundPlanWithUsers_spec hinbound
    exact ⟨htag, by rw [husers, plannedUsers], hsettings⟩

theorem exists_node_of_mem {nodes : List NodeInfo} {inbounds : List InboundPlan}
    (h : List.Forall₂ (InboundOf users) nodes inbounds) {inbound : InboundPlan} (hmem : inbound ∈ inbounds) :
    ∃ node ∈ nodes, InboundOf users node inbound := by
  induction h with
  | nil => cases hmem
  | @cons node head nodes inbounds hhead _ ih =>
    rcases List.mem_cons.1 hmem with rfl | hmem
    · exact ⟨node, List.mem_cons_self, hhead⟩
    · obtain ⟨other, hother, hof⟩ := ih hmem
      exact ⟨other, List.mem_cons_of_mem _ hother, hof⟩

theorem tags_of_forall₂ {nodes : List NodeInfo} {inbounds : List InboundPlan}
    (h : List.Forall₂ (InboundOf users) nodes inbounds) : inbounds.map (·.tag) = nodes.map (·.tag) := by
  induction h with
  | nil => rfl
  | cons hhead _ ih => rw [List.map_cons, List.map_cons, hhead.tag, ih]

theorem coreBundle_spec {resolved : ResolvedConfig} {nodes : List NodeInfo} {core : Option CorePlan}
    (h : coreBundle validate resolved nodes users = .ok core) :
    List.Forall₂ (InboundOf users) (nodes.filter (plansNode users)) (inboundsOf core) ∧ CorePlanOk resolved core := by
  unfold coreBundle at h
  by_cases hempty : nodes.isEmpty = true
  · rw [if_pos hempty] at h
    cases h
    rw [List.isEmpty_iff.1 hempty]
    exact ⟨.nil, fun _ h => by cases h⟩
  · rw [if_neg hempty] at h
    cases hkind : coreKindFromName resolved.kernel.type with
    | error error => rw [hkind] at h; cases h
    | ok _ =>
      simp only [hkind, splitCorePlansForNodesWithKind, bind, Except.bind] at h
      cases hnodes : keliCoreRsNodes validate (coreConfigPath resolved) users nodes with
      | error error => rw [hnodes] at h; cases h
      | ok coreNodes =>
        have hfilter := keliCoreRsNodes_eq hnodes
        simp only [hnodes] at h
        by_cases hnone : coreNodes.isEmpty = true
        · rw [if_pos hnone] at h
          cases h
          rw [← hfilter, List.isEmpty_iff.1 hnone]
          exact ⟨.nil, fun _ h => by cases h⟩
        · rw [if_neg hnone] at h
          cases hplan : CorePlan.fromNodesWithUsers (coreConfigPath resolved) coreNodes users with
          | error error => rw [hplan] at h; cases h
          | ok corePlan =>
            rw [hplan] at h
            cases h
            obtain ⟨hpath, hinbounds⟩ := fromNodesWithUsers_spec hplan
            rw [← hfilter]
            refine ⟨hinbounds, fun _ h => ?_⟩
            cases h
            refine ⟨hpath, fun hnil => hnone ?_⟩
            rw [hnil, List.forall₂_nil_right_iff] at hinbounds
            rw [hinbounds]
            rfl

/-- A list of inbounds for the nodes that are to have one. -/
theorem plannedFor_of_forall₂ {nodes : List NodeInfo} {inbounds : List InboundPlan}
    (h : List.Forall₂ (InboundOf users) (nodes.filter (plansNode users)) inbounds) :
    PlannedFor users nodes inbounds := by
  refine ⟨fun inbound hinbound => ?_, fun node hnode hplans => ?_, ?_⟩
  · obtain ⟨node, hnode, hof⟩ := exists_node_of_mem h hinbound
    exact ⟨node, (List.mem_filter.1 hnode).1, (List.mem_filter.1 hnode).2, hof⟩
  · have htag : node.tag ∈ inbounds.map (·.tag) := by
      rw [tags_of_forall₂ h]
      exact List.mem_map_of_mem (List.mem_filter.2 ⟨hnode, hplans⟩)
    obtain ⟨inbound, hinbound, heq⟩ := List.mem_map.1 htag
    exact ⟨inbound, hinbound, heq⟩
  · rw [tags_of_forall₂ h]
    exact List.filter_sublist.map _

/-- Taking some tags out of the nodes and the inbounds alike. -/
theorem PlannedFor.filter {nodes : List NodeInfo} {inbounds : List InboundPlan} (h : PlannedFor users nodes inbounds)
    (keep : Text → Bool) :
    PlannedFor users (nodes.filter fun node => keep node.tag) (inbounds.filter fun inbound => keep inbound.tag) := by
  refine ⟨fun inbound hinbound => ?_, fun node hnode hplans => ?_, ?_⟩
  · obtain ⟨hmem, hkeep⟩ := List.mem_filter.1 hinbound
    obtain ⟨node, hnode, hplans, hof⟩ := h.inboundOf inbound hmem
    exact ⟨node, List.mem_filter.2 ⟨hnode, hof.tag ▸ hkeep⟩, hplans, hof⟩
  · obtain ⟨hmem, hkeep⟩ := List.mem_filter.1 hnode
    obtain ⟨inbound, hinbound, heq⟩ := h.complete node hmem hplans
    exact ⟨inbound, List.mem_filter.2 ⟨hinbound, by rw [heq]; exact hkeep⟩, heq⟩
  · have hsub := h.tags.filter keep
    rwa [List.filter_map, List.filter_map] at hsub

end

/-! ## The runtime plan -/

theorem filterConflicting_spec {resolved : ResolvedConfig} {nodes : List NodeInfo} {failures : List NodeFailure}
    {core : Option CorePlan} {users : UsersByNodeTag} {filtered : List NodeInfo × List NodeFailure × Option CorePlan}
    (h : filterConflictingRuntimeListeners resolved nodes failures core = .ok filtered)
    (hplanned : PlannedFor users nodes (inboundsOf core)) (hcore : CorePlanOk resolved core) :
    filtered.1.Sublist nodes ∧ PlannedFor users filtered.1 (inboundsOf filtered.2.2) ∧
      CorePlanOk resolved filtered.2.2 := by
  unfold filterConflictingRuntimeListeners at h
  cases core with
  | none =>
    cases h
    exact ⟨List.Sublist.refl _, hplanned, hcore⟩
  | some corePlan =>
    cases hscan : scanListeners resolved nodes { failures } corePlan.inbounds with
    | error error => simp [hscan, bind, Except.bind] at h
    | ok scan =>
      simp only [hscan, bind, Except.bind] at h
      by_cases hskipped : scan.skippedTags.isEmpty = true
      · rw [if_pos hskipped] at h
        cases h
        exact ⟨List.Sublist.refl _, hplanned, hcore⟩
      · rw [if_neg hskipped] at h
        cases h
        have hkept := hplanned.filter fun tag => !scan.skippedTags.contains tag
        refine ⟨List.filter_sublist, ?_, fun corePlan' hsome => ?_⟩
        · simp only
          split
          · rename_i hnil
            rw [List.isEmpty_iff] at hnil
            rw [inboundsOf, Option.elim_none, ← hnil]
            exact hkept
          · exact hkept
        · simp only at hsome
          split at hsome
          · cases hsome
          · rename_i hne
            cases hsome
            exact ⟨(hcore corePlan rfl).1, by simpa [List.isEmpty_iff] using hne⟩

/-- **What the builder leaves**: a plan built from nodes and users, on some of the nodes. -/
theorem build_builtWith {validate : InboundPlan → Except Text Unit} {resolved : ResolvedConfig} {nodes : List NodeInfo}
    {failures : List NodeFailure} {users : UsersByNodeTag} {plan : RuntimeBootstrapPlan}
    (h : buildRuntimeBootstrapPlanWithUsers validate resolved nodes failures users = .ok plan) :
    BuiltWith users plan ∧ plan.resolved = resolved ∧ plan.nodeInfos.Sublist nodes := by
  unfold buildRuntimeBootstrapPlanWithUsers at h
  cases hbundle : coreBundle validate resolved nodes users with
  | error error => simp [hbundle, bind, Except.bind] at h
  | ok core =>
    obtain ⟨hinbounds, hcore⟩ := coreBundle_spec hbundle
    -- the DNS options change neither the inbounds nor the path
    have hdns : inboundsOf (core.map fun plan => plan.applyKernelDnsOptions resolved.kernel) = inboundsOf core := by
      cases core <;> rfl
    have hdnsOk : CorePlanOk resolved (core.map fun plan => plan.applyKernelDnsOptions resolved.kernel) := by
      cases core with
      | none => exact hcore
      | some corePlan =>
        intro _ hsome
        cases hsome
        exact hcore corePlan rfl
    simp only [hbundle, bind, Except.bind] at h
    cases hfilter : filterConflictingRuntimeListeners resolved nodes failures
        (core.map fun plan => plan.applyKernelDnsOptions resolved.kernel) with
    | error error => rw [hfilter] at h; cases h
    | ok filtered =>
      rw [hfilter] at h
      obtain ⟨hsub, hplanned, hok⟩ := filterConflicting_spec hfilter
        (by rw [hdns]; exact plannedFor_of_forall₂ hinbounds) hdnsOk
      cases h
      exact ⟨⟨hplanned, hok⟩, rfl, hsub⟩

theorem rebuild_builtWith {validate : InboundPlan → Except Text Unit} {users : UsersByNodeTag}
    {plan rebuilt : RuntimeBootstrapPlan} (h : rebuildRuntimePlanWithUsers validate plan users = .ok rebuilt) :
    BuiltWith users rebuilt ∧ rebuilt.resolved = plan.resolved ∧ rebuilt.nodeInfos.Sublist plan.nodeInfos :=
  build_builtWith h

end KeliNode
