import KeliNode.Runtime.Listeners

/-!
# Rebuilds and their history

`rebuild_runtime_plan_with_users` (`runtime.rs:184`) starts from the nodes the plan has left, so a node that one build
skips is gone for all later ones.  A run of rebuilds ends where one build of the whole list ends exactly if every node
that is gone is one that the one build skips too (`rebuilds_same_iff`).
-/

namespace KeliNode

open Lib

/-! ## One build and many -/

/-- The inbounds a build has before its listener filter. -/
def listenersOf (validate : InboundPlan → Except Text Unit) (resolved : ResolvedConfig) (nodeInfos : List NodeInfo)
    (users : UsersByNodeTag) : List InboundPlan :=
  inboundsOf (coreBundle validate resolved nodeInfos users).toOption.join

/-- The tags of the inbounds a build is to skip. -/
def skippedIn (validate : InboundPlan → Except Text Unit) (resolved : ResolvedConfig) (nodeInfos : List NodeInfo)
    (users : UsersByNodeTag) : List Text :=
  (selectListeners (listenersOf validate resolved nodeInfos users)).dropped.map (·.tag)

/-- Rebuild a plan for one map of users after the other. -/
def rebuildAll (validate : InboundPlan → Except Text Unit) (plan : RuntimeBootstrapPlan) (maps : List UsersByNodeTag) :
    Except Text RuntimeBootstrapPlan :=
  maps.foldlM (rebuildRuntimePlanWithUsers validate) plan

/-- The configuration under which a failure of the first node with the tag is reported. -/
def failureConfig (resolved : ResolvedConfig) (nodeInfos : List NodeInfo) (tag : Text) : Option NodeConfig :=
  (nodeInfos.find? (·.tag = tag)).map fun node => (nodeConfigForInfo resolved node.id node.tag).getD { nodeId := node.id }

/-- A plan is the plan of one build: nodes, inbounds, port-forward rules, and the nodes that have failed.  There are no
more failures than nodes that are gone, however many builds there were. -/
structure SamePlan (nodeInfos : List NodeInfo) (nodeFailures : List NodeFailure) (plan once : RuntimeBootstrapPlan) :
    Prop where
  nodes : plan.nodeInfos = once.nodeInfos
  inbounds : ∀ inbound, inbound ∈ inboundsOf plan.corePlan ↔ inbound ∈ inboundsOf once.corePlan
  hy2 : plan.hy2PortForward = once.hy2PortForward
  mieru : plan.mieruPortForward = once.mieruPortForward
  failures : ∃ new newOnce, plan.nodeFailures = nodeFailures ++ new ∧ once.nodeFailures = nodeFailures ++ newOnce ∧
    (∀ config, config ∈ new.map (·.config) ↔ config ∈ newOnce.map (·.config)) ∧
    new.length + plan.nodeInfos.length ≤ nodeInfos.length

/-! ## One build -/

section

variable {validate : InboundPlan → Except Text Unit} {resolved : ResolvedConfig} {nodeInfos : List NodeInfo}
  {nodeFailures : List NodeFailure} {users : UsersByNodeTag} {plan : RuntimeBootstrapPlan}

/-- What a build makes of its inbounds, where it skips some tags. -/
structure Built (users : UsersByNodeTag) (resolved : ResolvedConfig) (nodeInfos : List NodeInfo)
    (inbounds : List InboundPlan) (skipped : List Text) (plan : RuntimeBootstrapPlan) : Prop where
  inboundOf : List.Forall₂ (InboundOf users) (nodeInfos.filter (plansNode users)) inbounds
  resolved : plan.resolved = resolved
  nodes : plan.nodeInfos = nodeInfos.filter fun node => !skipped.contains node.tag
  inbounds : inboundsOf plan.corePlan = inbounds.filter fun inbound => !skipped.contains inbound.tag
  hy2 : plan.hy2PortForward = newHysteriaPortForwardStatus (buildHysteriaPortForwardRules plan.nodeInfos).1
    (buildHysteriaPortForwardRules plan.nodeInfos).2 false
  mieru : plan.mieruPortForward = newMieruPortForwardStatus plan.nodeInfos false

theorem build_built (h : buildRuntimeBootstrapPlanWithUsers validate resolved nodeInfos nodeFailures users = .ok plan) :
    Built users resolved nodeInfos (listenersOf validate resolved nodeInfos users)
        (scanOf resolved nodeInfos nodeFailures (listenersOf validate resolved nodeInfos users)).skippedTags plan ∧
      plan.nodeFailures =
        (scanOf resolved nodeInfos nodeFailures (listenersOf validate resolved nodeInfos users)).failures := by
  obtain ⟨core, hcore, h⟩ := bind_eq_ok.1 h
  obtain ⟨⟨nodeInfos', nodeFailures', core'⟩, hfilter, h⟩ := bind_eq_ok.1 h
  cases h
  have hinbounds := (coreBundle_spec hcore).1
  rw [listenersOf, hcore]
  cases core with
  | none =>
    cases hfilter
    exact ⟨⟨hinbounds, rfl, (List.filter_eq_self.2 fun _ _ => rfl).symm, rfl, rfl, rfl⟩, rfl⟩
  | some corePlan =>
    have htags : (corePlan.applyKernelDnsOptions resolved.kernel).listenTags =
        (corePlan.applyKernelDnsOptions resolved.kernel).inbounds.map (·.tag) :=
      show corePlan.listenTags = corePlan.inbounds.map (·.tag) from coreBundle_listenTags hcore
    have hfiltered := filtered_of_ok htags hfilter
    exact ⟨⟨hinbounds, rfl, hfiltered.nodes, hfiltered.inbounds, rfl, rfl⟩, hfiltered.failures⟩

/-! ## What a build reports -/

theorem failureOf_iff {inbound : InboundPlan} {failure : NodeFailure} :
    FailureOf resolved nodeInfos inbound failure ↔ failureConfig resolved nodeInfos inbound.tag = some failure.config := by
  rw [FailureOf, failureConfig, Option.map_eq_some_iff]
  exact exists_congr fun node => and_congr_right fun _ => eq_comm

/-- The nodes that failures are reported for. -/
theorem failure_configs {inbounds : List InboundPlan} {new : List NodeFailure}
    (h : List.Forall₂ (FailureOf resolved nodeInfos) inbounds new) (config : NodeConfig) :
    config ∈ new.map (·.config) ↔ ∃ tag ∈ inbounds.map (·.tag), failureConfig resolved nodeInfos tag = some config := by
  induction h with
  | nil => simp
  | cons hof _ ih =>
    rw [List.map_cons, List.mem_cons, ih, List.map_cons, List.exists_mem_cons_iff, failureOf_iff.1 hof, Option.some_inj,
      eq_comm]

/-- Nodes with other tags do not matter for the failure of a tag. -/
theorem failureConfig_filter {out : List Text} {tag : Text} (h : tag ∉ out) :
    failureConfig resolved (nodeInfos.filter fun node => !out.contains node.tag) tag =
      failureConfig resolved nodeInfos tag := by
  rw [failureConfig, failureConfig, List.find?_filter]
  refine congrArg (fun test => (nodeInfos.find? test).map _) (funext fun node => ?_)
  by_cases htag : node.tag = tag
  · simp [htag, h]
  · simp [htag]

theorem tag_of_failureConfig {tag : Text} {config : NodeConfig}
    (h : failureConfig resolved nodeInfos tag = some config) : tag ∈ nodeInfos.map (·.tag) := by
  obtain ⟨node, hnode, -⟩ := Option.map_eq_some_iff.1 h
  have htag : node.tag = tag := by simpa using List.find?_some hnode
  rw [← htag]
  exact List.mem_map_of_mem (List.mem_of_find?_eq_some hnode)

/-- Every inbound of a build has a node. -/
theorem Built.hasNode {inbounds : List InboundPlan} {tags : List Text} {inbound : InboundPlan}
    (h : Built users resolved nodeInfos inbounds tags plan) (hinbound : inbound ∈ inbounds) :
    KeliNode.hasNode nodeInfos inbound = true := by
  obtain ⟨node, hnode, hof⟩ := exists_node_of_mem h.inboundOf hinbound
  exact List.any_eq_true.2 ⟨node, (List.mem_filter.1 hnode).1, by simpa using hof.tag.symm⟩

/-- A build skips no more inbounds than it takes nodes out. -/
theorem Built.length_skipped {inbounds skipped : List InboundPlan}
    (h : Built users resolved nodeInfos inbounds (skipped.map (·.tag)) plan) (hsub : List.Sublist skipped inbounds) :
    skipped.length + plan.nodeInfos.length ≤ nodeInfos.length := by
  have hinbounds : (skipped.map (·.tag)).Sublist (nodeInfos.map (·.tag)) :=
    (hsub.map _).trans (plannedFor_of_forall₂ h.inboundOf).tags
  have hfilter := hinbounds.filter ((skipped.map (·.tag)).contains ·)
  rw [List.filter_eq_self.2 fun tag htag => List.contains_iff_mem.2 htag, List.filter_map] at hfilter
  have hlength := hfilter.length_le
  rw [List.length_map, List.length_map] at hlength
  rw [h.nodes, List.length_eq_length_filter_add (l := nodeInfos) fun node => (skipped.map (·.tag)).contains node.tag]
  exact Nat.add_le_add_right hlength _

/-! ## Runs of builds -/

/-- The nodes and failures that builds leave of a list: some tags are out, and their nodes are reported. -/
structure Reduced (resolved : ResolvedConfig) (nodeInfos : List NodeInfo) (nodeFailures : List NodeFailure)
    (out : List Text) (left : List NodeInfo) (failures : List NodeFailure) : Prop where
  nodes : left = nodeInfos.filter fun node => !out.contains node.tag
  failures : ∃ new, failures = nodeFailures ++ new ∧
    (∀ config, config ∈ new.map (·.config) ↔ ∃ tag ∈ out, failureConfig resolved nodeInfos tag = some config) ∧
    new.length + left.length ≤ nodeInfos.length

variable {out : List Text} {left : List NodeInfo} {failures : List NodeFailure}

variable (resolved nodeInfos nodeFailures) in
theorem reduced_nil : Reduced resolved nodeInfos nodeFailures [] nodeInfos nodeFailures :=
  ⟨(List.filter_eq_self.2 fun _ _ => rfl).symm, [], (List.append_nil _).symm, by simp, by simp⟩

/-- One more build takes the tags out that its scan skips. -/
theorem Reduced.build (h : Reduced resolved nodeInfos nodeFailures out left failures)
    (hbuild : buildRuntimeBootstrapPlanWithUsers validate resolved left failures users = .ok plan) :
    Reduced resolved nodeInfos nodeFailures
      (out ++ (scanOf resolved left failures (listenersOf validate resolved left users)).skippedTags) plan.nodeInfos
      plan.nodeFailures := by
  obtain ⟨hbuilt, hbuiltFailures⟩ := build_built hbuild
  obtain ⟨skipped, added, hsub, htags, hfailures, hof⟩ :=
    scan_accounts resolved left { failures } (listenersOf validate resolved left users)
  have hskipped : (scanOf resolved left failures (listenersOf validate resolved left users)).skippedTags =
      skipped.map (·.tag) := htags
  rw [hskipped] at hbuilt ⊢
  obtain ⟨new, hnew, hconfigs, hlength⟩ := h.failures
  have hall : skipped.filter (hasNode left) = skipped :=
    List.filter_eq_self.2 fun inbound hinbound => hbuilt.hasNode (hsub.subset hinbound)
  rw [hall] at hof
  refine ⟨?_, new ++ added, ?_, fun config => ?_, ?_⟩
  · rw [hbuilt.nodes, h.nodes, List.filter_filter]
    refine List.filter_congr fun node _ => ?_
    rw [List.contains_append, Bool.not_or, Bool.and_comm]
  · rw [hbuiltFailures, scanOf, hfailures, hnew, List.append_assoc]
  · rw [List.map_append, List.mem_append, hconfigs, failure_configs hof]
    have hleft : ∀ tag ∈ skipped.map (·.tag),
        failureConfig resolved left tag = failureConfig resolved nodeInfos tag := by
      intro tag htag
      obtain ⟨inbound, hinbound, rfl⟩ := List.mem_map.1 htag
      obtain ⟨node, hnode, heq⟩ := List.any_eq_true.1 (hbuilt.hasNode (hsub.subset hinbound))
      rw [h.nodes] at hnode ⊢
      refine failureConfig_filter ?_
      rw [← of_decide_eq_true heq]
      simpa using (List.mem_filter.1 hnode).2
    constructor
    · rintro (⟨tag, htag, hconfig⟩ | ⟨tag, htag, hconfig⟩)
      · exact ⟨tag, List.mem_append_left _ htag, hconfig⟩
      · exact ⟨tag, List.mem_append_right _ htag, hleft tag htag ▸ hconfig⟩
    · rintro ⟨tag, htag, hconfig⟩
      rcases List.mem_append.1 htag with htag | htag
      · exact .inl ⟨tag, htag, hconfig⟩
      · exact .inr ⟨tag, htag, (hleft tag htag).trans hconfig⟩
  · have hskippedLength := hbuilt.length_skipped hsub
    have hadded := hof.length_eq
    rw [List.length_append]
    omega

theorem rebuildAll_reduced {maps : List UsersByNodeTag} {start : RuntimeBootstrapPlan}
    (h : Reduced resolved nodeInfos nodeFailures out start.nodeInfos start.nodeFailures)
    (hresolved : start.resolved = resolved) (hrun : rebuildAll validate start maps = .ok plan) :
    plan.resolved = resolved ∧ ∃ out, Reduced resolved nodeInfos nodeFailures out plan.nodeInfos plan.nodeFailures := by
  induction maps generalizing start out with
  | nil =>
    cases hrun
    exact ⟨hresolved, out, h⟩
  | cons users maps ih =>
    obtain ⟨next, hnext, hrun⟩ := bind_eq_ok.1 hrun
    rw [rebuildRuntimePlanWithUsers, hresolved] at hnext
    exact ih (h.build hnext) (build_built hnext).1.resolved hrun

/-! ## The last build -/

theorem inboundOf_unique {node : NodeInfo} {a b : InboundPlan} (ha : InboundOf users node a)
    (hb : InboundOf users node b) : a = b := by
  have hsettings := ha.settings.symm.trans hb.settings
  have husers := ha.users.trans hb.users.symm
  cases a
  cases b
  simp only [Except.ok.injEq, InboundPlan.mk.injEq] at hsettings husers ⊢
  simp only [hsettings, husers, and_self]

/-- The inbounds of a part of the nodes. -/
theorem inbounds_filter {inbounds inbounds' : List InboundPlan}
    (h : List.Forall₂ (InboundOf users) (nodeInfos.filter (plansNode users)) inbounds)
    (h' : List.Forall₂ (InboundOf users)
      ((nodeInfos.filter fun node => !out.contains node.tag).filter (plansNode users)) inbounds') :
    inbounds' = inbounds.filter fun inbound => !out.contains inbound.tag := by
  rw [List.filter_comm] at h'
  have hfilter : List.Forall₂ (InboundOf users)
      ((nodeInfos.filter (plansNode users)).filter fun node => !out.contains node.tag)
      (inbounds.filter fun inbound => !out.contains inbound.tag) :=
    List.rel_filter (fun node inbound hof => by simp only [hof.tag]) h
  have hunique : Relator.RightUnique (InboundOf users) := fun _ _ _ ha hb => inboundOf_unique ha hb
  exact List.right_unique_forall₂' hunique h' hfilter

/-- A clear scan skips what the selection drops. -/
theorem skipped_of_clear (h : ListenersClear (listenersOf validate resolved nodeInfos users)) :
    (scanOf resolved nodeInfos nodeFailures (listenersOf validate resolved nodeInfos users)).skippedTags =
      skippedIn validate resolved nodeInfos users :=
  (represents_scanOf resolved nodeInfos nodeFailures h.leftovers).tags

/-- What the last build skips of the nodes left is what one build skips, if that skips all nodes that are out. -/
theorem keeps_iff {inbounds : List InboundPlan}
    (hinbounds : List.Forall₂ (InboundOf users) (nodeInfos.filter (plansNode users)) inbounds)
    (hclear : ListenersClear inbounds)
    (hout : ∀ node ∈ nodeInfos, node.tag ∈ out → node.tag ∈ (selectListeners inbounds).dropped.map (·.tag))
    {tag : Text} (htag : tag ∈ nodeInfos.map (·.tag)) :
    (tag ∈ out ∨ tag ∈ (selectListeners (inbounds.filter fun inbound => !out.contains inbound.tag)).dropped.map (·.tag)) ↔
      tag ∈ (selectListeners inbounds).dropped.map (·.tag) := by
  have hkept : ∀ kept ∈ (selectListeners inbounds).kept, (!out.contains kept.tag) = true := by
    intro kept hkept
    obtain ⟨node, hnode, hof⟩ := exists_node_of_mem hinbounds (Selection.kept_subset hkept)
    by_contra hnot
    have hmem : node.tag ∈ out := by
      rw [← hof.tag]
      simpa using hnot
    obtain ⟨dropped, hdropped, heq⟩ := List.mem_map.1 (hout node (List.mem_filter.1 hnode).1 hmem)
    exact hclear.tags kept hkept dropped hdropped (hof.tag.trans heq.symm)
  obtain ⟨-, hdropped⟩ := Selection.run_filter (t := {}) hkept rfl rfl
  rw [selectListeners, hdropped]
  constructor
  · rintro (hmem | hmem)
    · obtain ⟨node, hnode, rfl⟩ := List.mem_map.1 htag
      exact hout node hnode hmem
    · exact (List.filter_sublist.map _).subset hmem
  · intro hmem
    by_cases hnot : tag ∈ out
    · exact .inl hnot
    · obtain ⟨dropped, hdrop, rfl⟩ := List.mem_map.1 hmem
      exact .inr (List.mem_map_of_mem (List.mem_filter.2 ⟨hdrop, by simpa using hnot⟩))

variable {before once : RuntimeBootstrapPlan}

theorem skips_of_samePlan
    (hlast : buildRuntimeBootstrapPlanWithUsers validate resolved before.nodeInfos before.nodeFailures users = .ok plan)
    (honce : buildRuntimeBootstrapPlanWithUsers validate resolved nodeInfos nodeFailures users = .ok once)
    (hclear : ListenersClear (listenersOf validate resolved nodeInfos users))
    (h : SamePlan nodeInfos nodeFailures plan once) :
    ∀ node ∈ nodeInfos, node.tag ∉ before.nodeInfos.map (·.tag) → node.tag ∈ skippedIn validate resolved nodeInfos users := by
  intro node hnode hgone
  by_contra hnot
  have hkept : node ∈ once.nodeInfos := by
    rw [(build_built honce).1.nodes, skipped_of_clear hclear]
    exact List.mem_filter.2 ⟨hnode, by simpa using hnot⟩
  rw [← h.nodes, (build_built hlast).1.nodes] at hkept
  exact hgone (List.mem_map_of_mem (List.mem_filter.1 hkept).1)

theorem samePlan_of_skips
    (hbefore : Reduced resolved nodeInfos nodeFailures out before.nodeInfos before.nodeFailures)
    (hlast : buildRuntimeBootstrapPlanWithUsers validate resolved before.nodeInfos before.nodeFailures users = .ok plan)
    (honce : buildRuntimeBootstrapPlanWithUsers validate resolved nodeInfos nodeFailures users = .ok once)
    (hclear : ListenersClear (listenersOf validate resolved nodeInfos users))
    (hclearLast : ListenersClear (listenersOf validate resolved before.nodeInfos users))
    (h : ∀ node ∈ nodeInfos, node.tag ∉ before.nodeInfos.map (·.tag) → node.tag ∈ skippedIn validate resolved nodeInfos users) :
    SamePlan nodeInfos nodeFailures plan once := by
  have hbuilt := (build_built hlast).1
  have hbuiltOnce := (build_built honce).1
  have hinbounds : listenersOf validate resolved before.nodeInfos users =
      (listenersOf validate resolved nodeInfos users).filter fun inbound => !out.contains inbound.tag :=
    inbounds_filter hbuiltOnce.inboundOf (hbefore.nodes ▸ hbuilt.inboundOf)
  have hout : ∀ node ∈ nodeInfos, node.tag ∈ out → node.tag ∈ skippedIn validate resolved nodeInfos users := by
    refine fun node hnode hmem => h node hnode fun hleft => ?_
    obtain ⟨other, hother, htag⟩ := List.mem_map.1 hleft
    rw [hbefore.nodes] at hother
    simpa [htag, hmem] using (List.mem_filter.1 hother).2
  have hkeeps : ∀ tag ∈ nodeInfos.map (·.tag), tag ∈ out ++ skippedIn validate resolved before.nodeInfos users ↔
      tag ∈ [] ++ skippedIn validate resolved nodeInfos users := by
    intro tag htag
    rw [skippedIn, hinbounds, List.mem_append, List.nil_append]
    exact keeps_iff hbuiltOnce.inboundOf hclear hout htag
  have hkeepsContains : ∀ tag ∈ nodeInfos.map (·.tag),
      (!(out ++ skippedIn validate resolved before.nodeInfos users).contains tag) =
        !([] ++ skippedIn validate resolved nodeInfos users).contains tag := fun tag htag =>
    congrArg (! ·) (Bool.eq_iff_iff.2 (by rw [List.contains_iff_mem, List.contains_iff_mem, hkeeps tag htag]))
  have hreduced := hbefore.build hlast
  have hreducedOnce := (reduced_nil resolved nodeInfos nodeFailures).build honce
  rw [skipped_of_clear hclearLast] at hbuilt hreduced
  rw [skipped_of_clear hclear] at hbuiltOnce hreducedOnce
  have hnodes : plan.nodeInfos = once.nodeInfos := by
    rw [hreduced.nodes, hreducedOnce.nodes]
    exact List.filter_congr fun node hnode => hkeepsContains _ (List.mem_map_of_mem hnode)
  have hsame : inboundsOf plan.corePlan = inboundsOf once.corePlan := by
    rw [hbuilt.inbounds, hbuiltOnce.inbounds, hinbounds, List.filter_filter]
    refine List.filter_congr fun inbound hinbound => ?_
    obtain ⟨node, hnode, hof⟩ := exists_node_of_mem hbuiltOnce.inboundOf hinbound
    rw [Bool.and_comm, ← Bool.not_or, ← List.contains_append, hof.tag,
      hkeepsContains _ (List.mem_map_of_mem (List.mem_filter.1 hnode).1)]
    rfl
  refine ⟨hnodes, fun inbound => by rw [hsame], by rw [hbuilt.hy2, hbuiltOnce.hy2, hnodes],
    by rw [hbuilt.mieru, hbuiltOnce.mieru, hnodes], ?_⟩
  obtain ⟨new, hnew, hconfigs, hlength⟩ := hreduced.failures
  obtain ⟨newOnce, hnewOnce, hconfigsOnce, -⟩ := hreducedOnce.failures
  refine ⟨new, newOnce, hnew, hnewOnce, fun config => ?_, hlength⟩
  rw [hconfigs, hconfigsOnce]
  exact exists_congr fun tag => and_congr_left fun hconfig => hkeeps tag (tag_of_failureConfig hconfig)

/-- Some node of the list has gone from a plan. -/
def SomeGone (nodeInfos : List NodeInfo) (plan : RuntimeBootstrapPlan) : Prop :=
  ∃ node ∈ nodeInfos, node.tag ∉ plan.nodeInfos.map (·.tag)

/-- As long as no node has gone, the last build is the one build. -/
theorem samePlan_of_not_gone
    (hbefore : Reduced resolved nodeInfos nodeFailures out before.nodeInfos before.nodeFailures)
    (hlast : buildRuntimeBootstrapPlanWithUsers validate resolved before.nodeInfos before.nodeFailures users = .ok plan)
    (honce : buildRuntimeBootstrapPlanWithUsers validate resolved nodeInfos nodeFailures users = .ok once)
    (h : ¬SomeGone nodeInfos before) : SamePlan nodeInfos nodeFailures plan once := by
  have hnodes : before.nodeInfos = nodeInfos := by
    rw [hbefore.nodes, List.filter_eq_self]
    intro node hnode
    by_contra hout
    refine h ⟨node, hnode, fun hleft => ?_⟩
    obtain ⟨other, hother, htag⟩ := List.mem_map.1 hleft
    rw [hbefore.nodes] at hother
    exact hout (htag ▸ (List.mem_filter.1 hother).2)
  obtain ⟨new, hnew, -, hlength⟩ := hbefore.failures
  have hnone : new = [] := List.length_eq_zero_iff.1 (by rw [hnodes] at hlength; omega)
  rw [hnone, List.append_nil] at hnew
  rw [hnodes, hnew, honce] at hlast
  cases hlast
  obtain ⟨newOnce, hnewOnce, -, hlengthOnce⟩ := ((reduced_nil resolved nodeInfos nodeFailures).build honce).failures
  exact ⟨rfl, fun _ => Iff.rfl, rfl, rfl, newOnce, newOnce, hnewOnce, hnewOnce, fun _ => Iff.rfl, hlengthOnce⟩

/-- **Rebuilds and history**, for every node list and every run of rebuilds: unless nodes have gone and a build trips over
what is left of a skipped inbound, the run ends in the plan of one build exactly if that build skips every node that has
gone. -/
theorem rebuilds_same_iff {start : RuntimeBootstrapPlan} {maps : List UsersByNodeTag}
    (hstart : buildRuntimeBootstrapPlan validate resolved nodeInfos nodeFailures = .ok start)
    (hrun : rebuildAll validate start maps = .ok before)
    (hlast : rebuildRuntimePlanWithUsers validate before users = .ok plan)
    (honce : buildRuntimeBootstrapPlanWithUsers validate resolved nodeInfos nodeFailures users = .ok once)
    (hclear : SomeGone nodeInfos before → ListenersClear (listenersOf validate resolved nodeInfos users) ∧
      ListenersClear (listenersOf validate resolved before.nodeInfos users)) :
    SamePlan nodeInfos nodeFailures plan once ↔ ∀ node ∈ nodeInfos, node.tag ∉ before.nodeInfos.map (·.tag) →
      node.tag ∈ skippedIn validate resolved nodeInfos users := by
  obtain ⟨hresolved, out, hbefore⟩ :=
    rebuildAll_reduced ((reduced_nil resolved nodeInfos nodeFailures).build hstart) (build_built hstart).1.resolved hrun
  rw [rebuildRuntimePlanWithUsers, hresolved] at hlast
  by_cases hgone : SomeGone nodeInfos before
  · obtain ⟨hclearOnce, hclearLast⟩ := hclear hgone
    exact ⟨skips_of_samePlan hlast honce hclearOnce, samePlan_of_skips hbefore hlast honce hclearOnce hclearLast⟩
  · refine iff_of_true (samePlan_of_not_gone hbefore hlast honce hgone) fun node hnode hout => ?_
    exact absurd ⟨node, hnode, hout⟩ hgone

end

/-- A node whose protocol needs users. -/
def usersNode (tag : Text) (serverPort : Nat) : NodeInfo where
  id := 1
  protocol := .shadowsocks
  tag
  common := { serverPort, cipher := "aes-128-gcm" }

/-- A node whose protocol needs none. -/
def openNode (tag : Text) (serverPort : Nat) : NodeInfo where
  id := 2
  protocol := .socks
  tag
  common := { serverPort }

def usersOf (tag : Text) : UsersByNodeTag := (∅ : UsersByNodeTag).insert tag [{ id := 1, uuid := "a" }]

/-- The first plan of a run, the last but one, the last, and the plan of one build. -/
def runOf (nodeInfos : List NodeInfo) (maps : List UsersByNodeTag) (users : UsersByNodeTag) :
    Except Text (RuntimeBootstrapPlan × RuntimeBootstrapPlan × RuntimeBootstrapPlan × RuntimeBootstrapPlan) := do
  let validate (inbound : InboundPlan) := validateKeliCoreRsInbound inbound none
  let start ← buildRuntimeBootstrapPlan validate { continueOnError := true } nodeInfos []
  let before ← rebuildAll validate start maps
  let plan ← rebuildRuntimePlanWithUsers validate before users
  let once ← buildRuntimeBootstrapPlanWithUsers validate { continueOnError := true } nodeInfos [] users
  .ok (start, before, plan, once)

/-- The run's steps. -/
structure RunOf (nodeInfos : List NodeInfo) (maps : List UsersByNodeTag) (users : UsersByNodeTag)
    (start before plan once : RuntimeBootstrapPlan) : Prop where
  starts : buildRuntimeBootstrapPlan (validateKeliCoreRsInbound · none) { continueOnError := true } nodeInfos [] =
    .ok start
  runs : rebuildAll (validateKeliCoreRsInbound · none) start maps = .ok before
  last : rebuildRuntimePlanWithUsers (validateKeliCoreRsInbound · none) before users = .ok plan
  builds : buildRuntimeBootstrapPlanWithUsers (validateKeliCoreRsInbound · none) { continueOnError := true } nodeInfos []
    users = .ok once

theorem runOf_spec (nodeInfos : List NodeInfo) (maps : List UsersByNodeTag) (users : UsersByNodeTag)
    (test : RuntimeBootstrapPlan → RuntimeBootstrapPlan → RuntimeBootstrapPlan → Bool)
    (h : ((runOf nodeInfos maps users).toOption.any fun (_, before, plan, once) => test before plan once) = true) :
    ∃ start before plan once, RunOf nodeInfos maps users start before plan once ∧ test before plan once = true := by
  cases hrun : runOf nodeInfos maps users with
  | error error =>
    rw [hrun] at h
    cases h
  | ok plans =>
    rw [hrun] at h
    obtain ⟨start, hstart, hrun⟩ := bind_eq_ok.1 hrun
    obtain ⟨before, hbefore, hrun⟩ := bind_eq_ok.1 hrun
    obtain ⟨plan, hlast, hrun⟩ := bind_eq_ok.1 hrun
    obtain ⟨once, honce, hrun⟩ := bind_eq_ok.1 hrun
    cases hrun
    exact ⟨start, before, plan, once, ⟨hstart, hbefore, hlast, honce⟩, h⟩

/-- Two nodes without users on one port, and one that gets its users later. -/
def standingNodes : List NodeInfo := [openNode "first" 443, openNode "second" 443, usersNode "third" 8388]

/-- The second node stays out, as it should. -/
theorem rebuilds_same_iff_standing : ∃ start before plan once,
    RunOf standingNodes [∅] (usersOf "third") start before plan once ∧ SamePlan standingNodes [] plan once := by
  obtain ⟨start, before, plan, once, hrun, htest⟩ := runOf_spec standingNodes [∅] (usersOf "third")
    (fun before _ _ => decide (
      ListenersClear (listenersOf (validateKeliCoreRsInbound · none) { continueOnError := true } standingNodes
        (usersOf "third")) ∧
      ListenersClear (listenersOf (validateKeliCoreRsInbound · none) { continueOnError := true } before.nodeInfos
        (usersOf "third")) ∧
      ∀ node ∈ standingNodes, node.tag ∉ before.nodeInfos.map NodeInfo.tag → node.tag ∈ skippedIn
        (validateKeliCoreRsInbound · none) { continueOnError := true } standingNodes (usersOf "third")))
    (by decide +kernel)
  obtain ⟨hclear, hclearLast, hskips⟩ := of_decide_eq_true htest
  exact ⟨start, before, plan, once, hrun,
    (rebuilds_same_iff hrun.starts hrun.runs hrun.last hrun.builds fun _ => ⟨hclear, hclearLast⟩).2 hskips⟩

/-- A node that needs users, and one that needs none, on one port. -/
def contendingNodes : List NodeInfo := [usersNode "first" 443, openNode "second" 443]

/-- The first node has users for one rebuild and none for the next: the second node does not come back. -/
theorem second_node_lost : ∃ start before plan once,
    RunOf contendingNodes [usersOf "first"] ∅ start before plan once ∧ ¬SamePlan contendingNodes [] plan once := by
  obtain ⟨start, before, plan, once, hrun, htest⟩ := runOf_spec contendingNodes [usersOf "first"] ∅
    (fun _ plan once => decide (plan.nodeInfos.map (·.tag) ≠ once.nodeInfos.map (·.tag))) (by decide +kernel)
  refine ⟨start, before, plan, once, hrun, fun hsame => of_decide_eq_true htest ?_⟩
  rw [hsame.nodes]

end KeliNode
